import RelyingParty.Domain.LabelTable
import RelyingParty.Domain.Replacement
import RelyingParty.Text.Canonical

/-!
# Labels

Which labels a domain name may have. A label is in canonical form, holds no character that is
disallowed or would be replaced, does not begin with a mark, and has joiners only where they make a
difference. If any character of the name runs from right to left, each label has to keep to one
direction.
-/

namespace RelyingParty.Domain

open RelyingParty.Text

/-- Whether a character may stand in a label as it is. -/
def isAllowed (c : Char) : Bool :=
  !disallowed.has c && (replaced? c).isNone && c != '.'

/-- The combining class of marks that make a consonant end without its vowel. -/
def viramaClass : Nat := 9

/-- Whether the nearest character of `chars` that joining does not pass over belongs to a set. -/
def nearestJoins (joins : CodePointSet) (chars : List Char) : Bool :=
  match chars.find? fun c => !joinTransparent.has c with
  | some c => joins.has c
  | none => false

/-- Whether a joiner may stand between `before`, nearest first, and `rest`. -/
def joinerFits (c : Char) (before rest : List Char) : Bool :=
  let afterVirama := before.head?.any fun d => combiningClass d == viramaClass
  if c == '\u200D' then afterVirama
  else if c == '\u200C' then
    afterVirama || nearestJoins joinsForward before && nearestJoins joinsBackward rest
  else true

/-- Whether all joiners of a label stand where they may; `before` holds the characters passed,
nearest first. -/
def joinersFit (before : List Char) : List Char → Bool
  | [] => true
  | c :: rest => joinerFits c before rest && joinersFit (c :: before) rest

/-- Whether a label is valid, apart from its direction. -/
def isValidLabel (label : List Char) : Bool :=
  canonical label == label && label.all isAllowed && !label.head?.any marks.has &&
    joinersFit [] label

/-- How a character runs. -/
inductive Direction where
  /-- A letter that runs from left to right. -/
  | left
  /-- A letter that runs from right to left. -/
  | right
  /-- A European number. -/
  | european
  /-- An Arabic number. -/
  | arabic
  /-- A mark that runs with the character before it. -/
  | nonspacing
  /-- A character without a direction. -/
  | neutral
deriving DecidableEq, Repr

/-- How a character runs. -/
def direction (c : Char) : Direction :=
  if rightToLeft.has c then .right
  else if arabicNumbers.has c then .arabic
  else if europeanNumbers.has c then .european
  else if nonspacing.has c then .nonspacing
  else if directionless.has c then .neutral
  else .left

/-- Whether a name with this character runs from right to left in some part. -/
def runsBack (c : Char) : Bool :=
  direction c == .right || direction c == .arabic

/-- Whether a label keeps to one direction. -/
def keepsDirection (label : List Char) : Bool :=
  let directions := label.map direction
  let last := (directions.reverse.dropWhile (· == .nonspacing)).head?
  match directions.head? with
  | none => true
  | some .right =>
    !directions.contains .left && !(directions.contains .european && directions.contains .arabic) &&
      last.any fun d => d == .right || d == .european || d == .arabic
  | some .left =>
    !directions.contains .right && !directions.contains .arabic &&
      last.any fun d => d == .left || d == .european
  | some _ => false

end RelyingParty.Domain
