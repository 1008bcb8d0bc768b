import RelyingParty.Text.Bisection
import RelyingParty.Text.CanonicalTable

/-!
# Canonical form

Texts that only differ in how letters and their marks are put together have one canonical form:
every character is taken apart, the marks behind a letter are put in order of their classes, and
letter and marks are put together again as far as there are characters for that. Syllables of Hangul
are put together by calculation. The tables cover the texts of domain names.
-/

namespace RelyingParty.Text

/-- The combining class of a character; it is zero for all but marks. -/
def combiningClass (c : Char) : Nat :=
  match lastAtMost combiningRuns (·.first) c.toNat with
  | some run => if c.toNat ≤ run.last then run.rank else 0
  | none => 0

/-- The two characters that a character is the same as. -/
def parts? (c : Char) : Option (Char × Char) :=
  match lastAtMost composites (·.whole) c.toNat with
  | some composite =>
    if composite.whole = c.toNat then
      some (Char.ofNat composite.first, Char.ofNat composite.second)
    else none
  | none => none

/-- First syllable of Hangul. -/
def hangulBase : Nat := 0xAC00

/-- First leading consonant of Hangul. -/
def leadBase : Nat := 0x1100

/-- First vowel of Hangul. -/
def vowelBase : Nat := 0x1161

/-- The code point before the first trailing consonant of Hangul. -/
def trailBase : Nat := 0x11A7

/-- Number of leading consonants of Hangul. -/
def leadCount : Nat := 19

/-- Number of vowels of Hangul. -/
def vowelCount : Nat := 21

/-- Number of trailing consonants of Hangul, counting their absence. -/
def trailCount : Nat := 28

/-- The letters of a syllable of Hangul. -/
def hangulLetters? (c : Char) : Option (List Char) :=
  let n := c.toNat - hangulBase
  if hangulBase ≤ c.toNat && n < leadCount * vowelCount * trailCount then
    let lead := Char.ofNat (leadBase + n / (vowelCount * trailCount))
    let vowel := Char.ofNat (vowelBase + n / trailCount % vowelCount)
    let trail := n % trailCount
    some (if trail = 0 then [lead, vowel] else [lead, vowel, Char.ofNat (trailBase + trail)])
  else none

/-- Whether `n` is one of the `count` numbers from `base` on. -/
def isWithin (n base count : Nat) : Bool :=
  base ≤ n && n < base + count

/-- The syllable, or the beginning of one, that two characters of Hangul make. -/
def hangulJoined? (first second : Char) : Option Char :=
  let a := first.toNat
  let b := second.toNat
  if isWithin a leadBase leadCount && isWithin b vowelBase vowelCount then
    some (Char.ofNat
      (hangulBase + ((a - leadBase) * vowelCount + (b - vowelBase)) * trailCount))
  else if isWithin a hangulBase (leadCount * vowelCount * trailCount) &&
      (a - hangulBase) % trailCount = 0 && isWithin b (trailBase + 1) (trailCount - 1) then
    some (Char.ofNat (a + (b - trailBase)))
  else none

/-- The character that is the same as two others. -/
def joined? (first second : Char) : Option Char :=
  match hangulJoined? first second with
  | some c => some c
  | none =>
    (composites.find? fun composite =>
      composite.first == first.toNat && composite.second == second.toNat).map
        fun composite => Char.ofNat composite.whole

/-- A character taken apart at most `depth` times. -/
def apartWithin : Nat → Char → List Char
  | 0, c => [c]
  | depth + 1, c =>
    match parts? c with
    | some (first, second) => apartWithin depth first ++ [second]
    | none => [c]

/-- The greatest number of marks that a character holds. -/
def maxMarks : Nat := 4

/-- A character taken apart as far as possible. -/
def apart (c : Char) : List Char :=
  match hangulLetters? c with
  | some letters => letters
  | none => apartWithin maxMarks c

/-- Puts a mark in front of `passed`, which holds the characters before it, nearest first: it goes
behind the marks of higher classes. -/
def putMark (c : Char) : List Char → List Char
  | [] => [c]
  | d :: passed =>
    if combiningClass c < combiningClass d then d :: putMark c passed else c :: d :: passed

/-- The characters with the marks behind each letter in order of their classes. -/
def ordered (chars : List Char) : List Char :=
  (chars.foldl (fun passed c =>
    if combiningClass c = 0 then c :: passed else putMark c passed) []).reverse

/-- A letter, if there has been one, and the marks behind it that have not been put together with
it, last first. -/
structure Composing where
  /-- What is put together, last first. -/
  passed : List Char := []
  /-- The last letter. -/
  letter : Option Char := none
  /-- The marks behind it, last first. -/
  marks : List Char := []

/-- All characters, last first. -/
def Composing.all (state : Composing) : List Char :=
  state.marks ++ state.letter.toList ++ state.passed

/-- Adds a character. It is put together with the letter unless there is a mark between them of the
same class or a higher one. -/
def Composing.add (state : Composing) (c : Char) : Composing :=
  let rank := combiningClass c
  let isFree :=
    match state.marks with
    | [] => true
    | mark :: _ => combiningClass mark < rank
  match (if isFree then state.letter.bind (joined? · c) else none) with
  | some whole => { state with letter := some whole }
  | none =>
    if rank = 0 then ⟨state.all, some c, []⟩ else { state with marks := c :: state.marks }

/-- The canonical form of a text. -/
def canonical (chars : List Char) : List Char :=
  ((ordered (chars.flatMap apart)).foldl Composing.add {}).all.reverse

end RelyingParty.Text
