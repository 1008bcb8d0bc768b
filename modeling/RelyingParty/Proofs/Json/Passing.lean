import RelyingParty.Proofs.Json.Reading

/-!
# The texts that readers pass over

What a reader has passed over is the text between the cursor it began with and the one it ended
with. For the readers of blanks, literals and strings, that text is described here without the
reader, and each of them succeeds exactly when such a text lies ahead.
-/

namespace RelyingParty.Json

open RelyingParty.Text

/-- A cursor that moves over a text becomes another one. -/
structure Cursor.Passes (cursor : Cursor) (text : Bytes) (last : Cursor) : Prop where
  /-- The text lies ahead. -/
  rest : cursor.rest = text ++ last.rest
  /-- Lines and columns are counted. -/
  place : last.place = text.foldl Place.after cursor.place

namespace Cursor

theorem passes_nil {cursor last : Cursor} : cursor.Passes [] last ↔ cursor = last := by
  constructor
  · rintro ⟨hrest, hplace⟩
    cases cursor
    cases last
    cases hrest
    cases hplace
    rfl
  · rintro rfl
    exact ⟨rfl, rfl⟩

theorem passes_cons {cursor last : Cursor} {b : UInt8} {text : Bytes} :
    cursor.Passes (b :: text) last ↔
      cursor.rest.head? = some b ∧ cursor.advance.Passes text last := by
  obtain ⟨rest, place⟩ := cursor
  constructor
  · rintro ⟨hrest, hplace⟩
    cases hrest
    exact ⟨rfl, rfl, hplace⟩
  · rintro ⟨hhead, hrest, hplace⟩
    cases rest with
    | nil => cases hhead
    | cons first rest =>
      obtain rfl := Option.some.inj hhead
      exact ⟨congrArg (first :: ·) hrest, hplace⟩

theorem passes_append {cursor last : Cursor} {text more : Bytes} :
    cursor.Passes (text ++ more) last ↔
      ∃ middle, cursor.Passes text middle ∧ middle.Passes more last := by
  induction text generalizing cursor with
  | nil => simp [passes_nil]
  | cons b text ih =>
    simp only [List.cons_append, passes_cons, ih, and_assoc, exists_and_left]

theorem Passes.trans {cursor middle last : Cursor} {text more : Bytes}
    (h : cursor.Passes text middle) (hmore : middle.Passes more last) :
    cursor.Passes (text ++ more) last :=
  passes_append.mpr ⟨middle, h, hmore⟩

/-- One byte is passed over. -/
theorem passes_advance {cursor : Cursor} {b : UInt8} (h : cursor.rest.head? = some b) :
    cursor.Passes [b] cursor.advance :=
  passes_cons.mpr ⟨h, passes_nil.mpr rfl⟩

theorem passes_singleton {cursor last : Cursor} {b : UInt8} :
    cursor.Passes [b] last ↔ cursor.rest.head? = some b ∧ last = cursor.advance := by
  rw [passes_cons, passes_nil, eq_comm (a := last)]

theorem Passes.length {cursor last : Cursor} {text : Bytes} (h : cursor.Passes text last) :
    cursor.rest.length = text.length + last.rest.length := by
  rw [h.rest, List.length_append]

/-- Where a text lies ahead it can be passed over. -/
theorem exists_passes (text tail : Bytes) (place : Place) :
    ∃ last : Cursor, last.rest = tail ∧ Passes ⟨text ++ tail, place⟩ text last :=
  ⟨⟨tail, text.foldl Place.after place⟩, rfl, rfl, rfl⟩

end Cursor

namespace Reader

/-- A text of blanks only. -/
def AllBlank (text : Bytes) : Prop := ∀ b ∈ text, isBlankByte b = true

theorem allBlank_nil : AllBlank [] := fun _ h => nomatch h

theorem allBlank_cons {b : UInt8} {text : Bytes} :
    AllBlank (b :: text) ↔ isBlankByte b = true ∧ AllBlank text :=
  List.forall_mem_cons

theorem skip_eq_ok {cursor last : Cursor} : skip cursor = .ok () last ↔ last = cursor.advance := by
  simp [skip, eq_comm]

theorem peek_eq_ok {cursor last : Cursor} {ahead : Option UInt8} :
    peek cursor = .ok ahead last ↔ ahead = cursor.rest.head? ∧ last = cursor := by
  simp [peek, eq_comm]

theorem next_eq_ok {cursor last : Cursor} {ahead : Option UInt8} :
    next cursor = .ok ahead last ↔ ahead = cursor.rest.head? ∧ last = cursor.advance := by
  simp [next, eq_comm]

/-- What a reader does behind another one that has succeeded. -/
theorem bind_of_ok {α β : Type} {read : Reader α} {cursor reached : Cursor} {value : α}
    (h : read cursor = .ok value reached) (after : α → Reader β) :
    (read >>= after) cursor = after value reached := by
  simp only [bind, EStateM.bind, h]

theorem bind_congr_of_eq {α β : Type} {read other : Reader α} {cursor reached : Cursor}
    (h : read cursor = other reached) (after : α → Reader β) :
    (read >>= after) cursor = (other >>= after) reached := by
  simp only [bind, EStateM.bind, h]

section Ahead

theorem peek_bind {α : Type} (after : Option UInt8 → Reader α) (cursor : Cursor) :
    (peek >>= after) cursor = after cursor.rest.head? cursor := rfl

theorem skip_bind {α : Type} (after : Unit → Reader α) (cursor : Cursor) :
    (skip >>= after) cursor = after () cursor.advance := rfl

/-! Most readers look at the byte ahead and fail if there is none. -/

variable {α : Type} {after : Option UInt8 → Reader α}

theorem peek_bind_eq_ok (fails : ∀ value reached last, after none reached ≠ .ok value last)
    {cursor last : Cursor} {value : α} :
    (peek >>= after) cursor = .ok value last ↔
      ∃ b, cursor.rest.head? = some b ∧ after (some b) cursor = .ok value last := by
  constructor
  · intro h
    obtain ⟨ahead, _, hpeek, hrest⟩ := bind_eq_ok.mp h
    obtain ⟨rfl, rfl⟩ := peek_eq_ok.mp hpeek
    cases hahead : Cursor.rest _ |>.head? with
    | none => exact absurd (hahead ▸ hrest) (fails _ _ _)
    | some b => exact ⟨b, rfl, hahead ▸ hrest⟩
  · rintro ⟨b, hahead, hrest⟩
    exact bind_eq_ok.mpr ⟨some b, cursor, peek_eq_ok.mpr ⟨hahead.symm, rfl⟩, hrest⟩

theorem next_bind_eq_ok (fails : ∀ value reached last, after none reached ≠ .ok value last)
    {cursor last : Cursor} {value : α} :
    (next >>= after) cursor = .ok value last ↔
      ∃ b, cursor.rest.head? = some b ∧ after (some b) cursor.advance = .ok value last := by
  constructor
  · intro h
    obtain ⟨ahead, _, hnext, hrest⟩ := bind_eq_ok.mp h
    obtain ⟨rfl, rfl⟩ := next_eq_ok.mp hnext
    cases hahead : cursor.rest.head? with
    | none => exact absurd (hahead ▸ hrest) (fails _ _ _)
    | some b => exact ⟨b, rfl, hahead ▸ hrest⟩
  · rintro ⟨b, hahead, hrest⟩
    exact bind_eq_ok.mpr ⟨some b, _, next_eq_ok.mpr ⟨hahead.symm, rfl⟩, hrest⟩

end Ahead

/-- All blanks ahead are passed over, and nothing else. -/
theorem peekPastBlanks_eq_ok {cursor last : Cursor} {ahead : Option UInt8} :
    peekPastBlanks cursor = .ok ahead last ↔
      ∃ gap, AllBlank gap ∧ cursor.Passes gap last ∧ last.rest.head? = ahead ∧
        ∀ b ∈ ahead, isBlankByte b = false := by
  obtain ⟨bytes, place⟩ := cursor
  induction bytes generalizing place with
  | nil =>
    constructor
    · rintro ⟨⟩
      exact ⟨[], allBlank_nil, Cursor.passes_nil.mpr rfl, rfl, fun _ h => nomatch h⟩
    · rintro ⟨gap, -, ⟨hrest, hplace⟩, rfl, -⟩
      obtain ⟨rfl, hlast⟩ := List.append_eq_nil_iff.mp hrest.symm
      obtain ⟨rest, place⟩ := last
      cases hlast
      cases hplace
      rfl
  | cons b rest ih =>
    by_cases hblank : isBlankByte b = true
    · have hsame : peekPastBlanks ⟨b :: rest, place⟩ = peekPastBlanks ⟨rest, place.after b⟩ := by
        simp only [peekPastBlanks, afterBlanks, if_pos hblank]
      rw [hsame, ih]
      constructor
      · rintro ⟨gap, hgap, hpasses, hahead⟩
        exact ⟨b :: gap, allBlank_cons.mpr ⟨hblank, hgap⟩,
          Cursor.passes_cons.mpr ⟨rfl, hpasses⟩, hahead⟩
      · rintro ⟨gap, hgap, hpasses, hhead, hahead⟩
        cases gap with
        | nil =>
          obtain rfl := Cursor.passes_nil.mp hpasses
          obtain rfl := hhead
          exact absurd hblank (by simp [hahead b rfl])
        | cons first gap =>
          obtain ⟨-, hpasses⟩ := Cursor.passes_cons.mp hpasses
          exact ⟨gap, (allBlank_cons.mp hgap).2, hpasses, hhead, hahead⟩
    · have hsame : peekPastBlanks ⟨b :: rest, place⟩ = .ok (some b) ⟨b :: rest, place⟩ := by
        simp only [peekPastBlanks, afterBlanks, if_neg hblank, List.head?_cons]
      rw [hsame]
      constructor
      · rintro ⟨⟩
        refine ⟨[], allBlank_nil, Cursor.passes_nil.mpr rfl, rfl, ?_⟩
        rintro _ ⟨⟩
        exact Bool.eq_false_iff.mpr hblank
      · rintro ⟨gap, hgap, hpasses, rfl, -⟩
        cases gap with
        | nil =>
          obtain rfl := Cursor.passes_nil.mp hpasses
          rfl
        | cons first gap =>
          obtain ⟨hhead, -⟩ := Cursor.passes_cons.mp hpasses
          obtain rfl := Option.some.inj hhead
          exact absurd (allBlank_cons.mp hgap).1 hblank

/-- The byte behind blanks decides how to go on. -/
theorem peekPastBlanks_bind_eq_ok {α : Type} {after : Option UInt8 → Reader α}
    (fails : ∀ value reached last, after none reached ≠ .ok value last) {cursor last : Cursor}
    {value : α} :
    (peekPastBlanks >>= after) cursor = .ok value last ↔
      ∃ gap b reached, AllBlank gap ∧ cursor.Passes gap reached ∧
        reached.rest.head? = some b ∧ isBlankByte b = false ∧
        after (some b) reached = .ok value last := by
  constructor
  · intro h
    obtain ⟨ahead, reached, hpeek, hrest⟩ := bind_eq_ok.mp h
    obtain ⟨gap, hgap, hpasses, hahead, hblank⟩ := peekPastBlanks_eq_ok.mp hpeek
    cases ahead with
    | none => exact absurd hrest (fails _ _ _)
    | some b => exact ⟨gap, b, reached, hgap, hpasses, hahead, hblank b rfl, hrest⟩
  · rintro ⟨gap, b, reached, hgap, hpasses, hahead, hblank, hrest⟩
    refine bind_eq_ok.mpr ⟨some b, reached, ?_, hrest⟩
    exact peekPastBlanks_eq_ok.mpr ⟨gap, hgap, hpasses, hahead, by rintro _ ⟨⟩; exact hblank⟩

theorem literal_eq_ok {letters : List Char} {cursor last : Cursor} :
    literal letters cursor = .ok () last ↔ cursor.Passes (letters.map byte) last := by
  induction letters generalizing cursor with
  | nil =>
    rw [literal, pure_eq_ok, List.map_nil, Cursor.passes_nil, and_iff_right rfl]
  | cons c letters ih =>
    rw [literal, next_bind_eq_ok nofun, List.map_cons, Cursor.passes_cons, ← ih]
    constructor
    · rintro ⟨b, hahead, hrest⟩
      simp only at hrest
      split at hrest
      · next hsame => exact ⟨hahead.trans (congrArg some (eq_of_beq hsame)), hrest⟩
      · cases hrest
    · rintro ⟨hahead, hrest⟩
      refine ⟨byte c, hahead, ?_⟩
      simp only [beq_self_eq_true, if_true]
      exact hrest

/-- The colon of a member is passed over with the blanks before it. -/
theorem colon_eq_ok {cursor last : Cursor} :
    colon cursor = .ok () last ↔
      ∃ gap, AllBlank gap ∧ cursor.Passes (gap ++ [byte ':']) last := by
  rw [colon, peekPastBlanks_bind_eq_ok nofun]
  constructor
  · rintro ⟨gap, b, reached, hgap, hpasses, hahead, -, hrest⟩
    simp only at hrest
    split at hrest
    · next hcolon =>
      obtain rfl := eq_of_beq hcolon
      obtain rfl := skip_eq_ok.mp hrest
      exact ⟨gap, hgap, hpasses.trans (Cursor.passes_advance hahead)⟩
    · cases hrest
  · rintro ⟨gap, hgap, hpasses⟩
    obtain ⟨reached, hblanks, hcolon⟩ := Cursor.passes_append.mp hpasses
    obtain ⟨hahead, rfl⟩ := Cursor.passes_singleton.mp hcolon
    exact ⟨gap, byte ':', reached, hgap, hblanks, hahead, by decide, rfl⟩

/-- The code unit that four hexadecimal digits stand for. -/
def hexUnit? : Bytes → Option Nat
  | [a, b, c, d] =>
    match hexDigit? a, hexDigit? b, hexDigit? c, hexDigit? d with
    | some a, some b, some c, some d => some (((a * 16 + b) * 16 + c) * 16 + d)
    | _, _, _, _ => none
  | _ => none

theorem hexQuad_eq_ok {cursor last : Cursor} {unit : Nat} :
    hexQuad cursor = .ok unit last ↔
      ∃ text, hexUnit? text = some unit ∧ cursor.Passes text last := by
  constructor
  · intro h
    obtain ⟨_, _, hget, hquad⟩ := bind_eq_ok.mp h
    cases hget
    obtain ⟨bytes, place⟩ := cursor
    rcases bytes with _ | ⟨a, _ | ⟨b, _ | ⟨c, _ | ⟨d, tail⟩⟩⟩⟩
    · cases hquad
    · cases hquad
    · cases hquad
    · cases hquad
    · obtain ⟨_, _, hset, hdigits⟩ := bind_eq_ok.mp hquad
      cases hset
      refine ⟨[a, b, c, d], ?_⟩
      cases ha : hexDigit? a <;> cases hb : hexDigit? b <;> cases hc : hexDigit? c <;>
        cases hd : hexDigit? d <;> simp only [ha, hb, hc, hd] at hdigits <;> cases hdigits
      exact ⟨by simp only [hexUnit?, ha, hb, hc, hd], rfl, rfl⟩
  · rintro ⟨text, hunit, hpasses⟩
    rcases text with _ | ⟨a, _ | ⟨b, _ | ⟨c, _ | ⟨d, _ | ⟨e, text⟩⟩⟩⟩⟩
    · cases hunit
    · cases hunit
    · cases hunit
    · cases hunit
    · obtain ⟨rest, place⟩ := last
      obtain ⟨hrest, hplace⟩ := hpasses
      obtain ⟨bytes, start⟩ := cursor
      obtain rfl : bytes = a :: b :: c :: d :: rest := hrest
      obtain rfl : place = [a, b, c, d].foldl Place.after start := hplace
      refine bind_eq_ok.mpr ⟨_, _, rfl, bind_eq_ok.mpr ⟨(), _, rfl, ?_⟩⟩
      cases ha : hexDigit? a <;> cases hb : hexDigit? b <;> cases hc : hexDigit? c <;>
        cases hd : hexDigit? d <;> simp only [hexUnit?, ha, hb, hc, hd] at hunit <;> cases hunit
      rfl
    · cases hunit

theorem pairByte_eq_ok {b : UInt8} {cursor last : Cursor} :
    pairByte b cursor = .ok () last ↔ cursor.Passes [b] last := by
  rw [Cursor.passes_singleton]
  constructor
  · intro h
    obtain ⟨found, hahead, hbyte⟩ := (peek_bind_eq_ok nofun).mp h
    obtain ⟨_, _, hskip, hcheck⟩ := bind_eq_ok.mp hbyte
    cases hskip
    split at hcheck
    · next hsame => exact ⟨eq_of_beq hsame ▸ hahead, (pure_eq_ok.mp hcheck).2.symm⟩
    · cases hcheck
  · rintro ⟨hahead, rfl⟩
    refine bind_eq_ok.mpr ⟨_, _, rfl, ?_⟩
    rw [hahead]
    refine bind_eq_ok.mpr ⟨(), _, rfl, ?_⟩
    rw [if_pos (beq_self_eq_true b)]
    rfl

/-- The text of one character after the backslash and the `u`: a code unit that is a character, or
the two halves of a surrogate pair. -/
inductive UnitText : Bytes → Bytes → Prop where
  /-- A character of the basic plane. -/
  | single {text : Bytes} {unit : Nat} (digits : hexUnit? text = some unit)
      (scalar : unit < 0xD800 ∨ 0xDFFF < unit) :
      UnitText text (Utf8.encode (Char.ofNat unit).toString)
  /-- A character beyond it. -/
  | pair {text more : Bytes} {high low : Nat} (digits : hexUnit? text = some high)
      (high_mem : 0xD800 ≤ high ∧ high < 0xDC00) (moreDigits : hexUnit? more = some low)
      (low_mem : 0xDC00 ≤ low ∧ low ≤ 0xDFFF) :
      UnitText (text ++ byte '\\' :: byte 'u' :: more)
        (Utf8.encode
          (Char.ofNat ((high - 0xD800) * 0x400 + (low - 0xDC00) + 0x10000)).toString)

theorem unicodeEscape_eq_ok {cursor last : Cursor} {found : Bytes} :
    unicodeEscape cursor = .ok found last ↔
      ∃ text, UnitText text found ∧ cursor.Passes text last := by
  constructor
  · intro h
    obtain ⟨first, reached, hfirst, hrest⟩ := bind_eq_ok.mp h
    obtain ⟨text, hunit, hpasses⟩ := hexQuad_eq_ok.mp hfirst
    split at hrest
    · cases hrest
    next hlow =>
    split at hrest
    · next hscalar =>
      rw [Bool.or_eq_true, decide_eq_true_eq, decide_eq_true_eq] at hscalar
      obtain ⟨rfl, rfl⟩ := pure_eq_ok.mp hrest
      exact ⟨text, .single hunit hscalar, hpasses⟩
    next hpair =>
    simp only [Bool.and_eq_true, Bool.or_eq_true, decide_eq_true_eq] at hlow hpair
    obtain ⟨_, _, hslash, hrest⟩ := bind_eq_ok.mp hrest
    obtain ⟨_, _, hletter, hrest⟩ := bind_eq_ok.mp hrest
    obtain ⟨second, _, hsecond, hcode⟩ := bind_eq_ok.mp hrest
    obtain ⟨more, hmore, hmorePasses⟩ := hexQuad_eq_ok.mp hsecond
    split at hcode
    · cases hcode
    next hbounds =>
    simp only [Bool.or_eq_true, decide_eq_true_eq] at hbounds
    obtain ⟨rfl, rfl⟩ := pure_eq_ok.mp hcode
    have hslashPasses := pairByte_eq_ok.mp hslash
    have hletterPasses := pairByte_eq_ok.mp hletter
    exact ⟨_, .pair hunit (by omega) hmore (by omega),
      hpasses.trans (hslashPasses.trans (hletterPasses.trans hmorePasses))⟩
  · rintro ⟨text, htext, hpasses⟩
    cases htext with
    | @single text unit digits scalar =>
      refine bind_eq_ok.mpr ⟨unit, last, hexQuad_eq_ok.mpr ⟨text, digits, hpasses⟩, ?_⟩
      rw [if_neg (by simp only [Bool.and_eq_true, decide_eq_true_eq]; omega),
        if_pos (by simpa only [Bool.or_eq_true, decide_eq_true_eq] using scalar)]
      rfl
    | @pair text more high low digits high_mem moreDigits low_mem =>
      obtain ⟨reached, hfirst, hpasses⟩ := Cursor.passes_append.mp hpasses
      obtain ⟨hslash, hpasses⟩ := Cursor.passes_cons.mp hpasses
      obtain ⟨hletter, hpasses⟩ := Cursor.passes_cons.mp hpasses
      refine bind_eq_ok.mpr ⟨high, reached, hexQuad_eq_ok.mpr ⟨text, digits, hfirst⟩, ?_⟩
      rw [if_neg (by simp only [Bool.and_eq_true, decide_eq_true_eq]; omega),
        if_neg (by simp only [Bool.or_eq_true, decide_eq_true_eq]; omega)]
      refine bind_eq_ok.mpr ⟨(), _, pairByte_eq_ok.mpr (Cursor.passes_advance hslash), ?_⟩
      refine bind_eq_ok.mpr ⟨(), _, pairByte_eq_ok.mpr (Cursor.passes_advance hletter), ?_⟩
      refine bind_eq_ok.mpr ⟨low, last, hexQuad_eq_ok.mpr ⟨more, moreDigits, hpasses⟩, ?_⟩
      rw [if_neg (by simp only [Bool.or_eq_true, decide_eq_true_eq]; omega)]
      rfl

/-- What follows a quote up to the quote that closes the string, and the bytes of the string. -/
inductive StringText : Bytes → Bytes → Prop where
  /-- The closing quote. -/
  | close : StringText [byte '"'] []
  /-- A byte that stands for itself. -/
  | plain {b : UInt8} {text content : Bytes} (quote : b ≠ byte '"') (slash : b ≠ byte '\\')
      (control : ¬ b < 0x20) (rest : StringText text content) :
      StringText (b :: text) (b :: content)
  /-- An escape of one letter. -/
  | short {letter found : UInt8} {text content : Bytes} (escape : shortEscape? letter = some found)
      (rest : StringText text content) :
      StringText (byte '\\' :: letter :: text) (found :: content)
  /-- An escape of code units. -/
  | unit {units found text content : Bytes} (escape : UnitText units found)
      (rest : StringText text content) :
      StringText (byte '\\' :: byte 'u' :: (units ++ text)) (found ++ content)

/-- A letter of a one-letter escape is no `u`. -/
theorem beq_u_of_shortEscape? {letter found : UInt8} (h : shortEscape? letter = some found) :
    (letter == byte 'u') = false := by
  apply beq_eq_false_iff_ne.mpr
  rintro rfl
  cases h

/-- An escape is read after its backslash as the bytes it stands for. -/
theorem escape_eq_ok {cursor last : Cursor} {found : Bytes} :
    escape cursor = .ok found last ↔
      (∃ letter short, shortEscape? letter = some short ∧ cursor.Passes [letter] last ∧
        found = [short]) ∨
      ∃ units, UnitText units found ∧ cursor.Passes (byte 'u' :: units) last := by
  rw [escape, next_bind_eq_ok nofun]
  constructor
  · rintro ⟨letter, hahead, hrest⟩
    simp only at hrest
    split at hrest
    · next hu =>
      obtain rfl := eq_of_beq hu
      obtain ⟨units, hunits, hpasses⟩ := unicodeEscape_eq_ok.mp hrest
      exact Or.inr ⟨units, hunits, Cursor.passes_cons.mpr ⟨hahead, hpasses⟩⟩
    · cases hshort : shortEscape? letter with
      | none =>
        rw [hshort] at hrest
        cases hrest
      | some short =>
        rw [hshort] at hrest
        obtain ⟨rfl, rfl⟩ := pure_eq_ok.mp hrest
        exact Or.inl ⟨letter, short, hshort, Cursor.passes_advance hahead, rfl⟩
  · rintro (⟨letter, short, hshort, hpasses, rfl⟩ | ⟨units, hunits, hpasses⟩)
    · obtain ⟨hahead, rfl⟩ := Cursor.passes_singleton.mp hpasses
      refine ⟨letter, hahead, ?_⟩
      simp only [beq_u_of_shortEscape? hshort, hshort]
      rfl
    · obtain ⟨hahead, hpasses⟩ := Cursor.passes_cons.mp hpasses
      refine ⟨byte 'u', hahead, ?_⟩
      simp only [beq_self_eq_true, if_true]
      exact unicodeEscape_eq_ok.mpr ⟨units, hunits, hpasses⟩

theorem stringText_of_stringBytes {bound : Nat} {content bytes : Bytes} {cursor last : Cursor}
    (h : stringBytes bound content cursor = .ok bytes last) :
    ∃ text more, StringText text more ∧ cursor.Passes text last ∧
      bytes = content.reverse ++ more := by
  induction bound generalizing content cursor with
  | zero => cases h
  | succ bound ih =>
    obtain ⟨b, hahead, hnext⟩ := (peek_bind_eq_ok nofun).mp h
    obtain ⟨_, _, hskip, hbyte⟩ := bind_eq_ok.mp hnext
    obtain rfl := skip_eq_ok.mp hskip
    have hfirst := Cursor.passes_advance hahead
    by_cases hquote : b = byte '"'
    · subst hquote
      obtain ⟨rfl, rfl⟩ := pure_eq_ok.mp hbyte
      exact ⟨_, _, .close, hfirst, (List.append_nil _).symm⟩
    rw [if_neg (by simpa using hquote)] at hbyte
    by_cases hslash : b = byte '\\'
    · subst hslash
      obtain ⟨found, reached, hescape, hlater⟩ := bind_eq_ok.mp hbyte
      obtain ⟨text, more, htext, hpasses, rfl⟩ := ih hlater
      rcases escape_eq_ok.mp hescape with
        ⟨letter, short, hshort, hletter, rfl⟩ | ⟨units, hunits, hletter⟩
      · exact ⟨_, _, .short hshort htext, hfirst.trans (hletter.trans hpasses), by simp⟩
      · exact ⟨_, _, .unit hunits htext, hfirst.trans (hletter.trans hpasses), by simp⟩
    rw [if_neg (by simpa using hslash)] at hbyte
    by_cases hcontrol : b < 0x20
    · rw [if_pos hcontrol] at hbyte
      cases hbyte
    rw [if_neg hcontrol] at hbyte
    obtain ⟨text, more, htext, hpasses, rfl⟩ := ih hbyte
    exact ⟨_, _, .plain hquote hslash hcontrol htext, hfirst.trans hpasses, by simp⟩

theorem stringBytes_of_stringText {text more : Bytes} (h : StringText text more) {bound : Nat}
    {content : Bytes} {cursor last : Cursor} (enough : text.length ≤ bound)
    (hpasses : cursor.Passes text last) :
    stringBytes bound content cursor = .ok (content.reverse ++ more) last := by
  induction h generalizing bound content cursor with
  | close =>
    obtain ⟨bound, rfl⟩ := Nat.exists_eq_succ_of_ne_zero (Nat.ne_zero_of_lt enough)
    obtain ⟨hahead, rfl⟩ := Cursor.passes_singleton.mp hpasses
    refine (peek_bind_eq_ok nofun).mpr ⟨_, hahead, bind_eq_ok.mpr ⟨(), _, rfl, ?_⟩⟩
    rw [if_pos (beq_self_eq_true _), List.append_nil]
    rfl
  | plain quote slash control rest ih =>
    obtain ⟨bound, rfl⟩ := Nat.exists_eq_succ_of_ne_zero (Nat.ne_zero_of_lt enough)
    obtain ⟨hahead, hlater⟩ := Cursor.passes_cons.mp hpasses
    refine (peek_bind_eq_ok nofun).mpr ⟨_, hahead, bind_eq_ok.mpr ⟨(), _, rfl, ?_⟩⟩
    rw [if_neg (by simpa using quote), if_neg (by simpa using slash), if_neg control,
      ih (Nat.le_of_succ_le_succ enough) hlater]
    simp
  | @short letter found text more escape rest ih =>
    obtain ⟨bound, rfl⟩ := Nat.exists_eq_succ_of_ne_zero (Nat.ne_zero_of_lt enough)
    obtain ⟨hahead, hlater⟩ := Cursor.passes_cons.mp hpasses
    obtain ⟨hletter, hlater⟩ := Cursor.passes_cons.mp hlater
    have hescape := escape_eq_ok.mpr
      (Or.inl ⟨letter, found, escape, Cursor.passes_advance hletter, rfl⟩)
    refine (peek_bind_eq_ok nofun).mpr ⟨_, hahead, bind_eq_ok.mpr ⟨(), _, rfl, ?_⟩⟩
    refine bind_eq_ok.mpr ⟨[found], _, hescape, ?_⟩
    rw [ih (by grind) hlater]
    simp
  | @unit units found text more escape rest ih =>
    obtain ⟨bound, rfl⟩ := Nat.exists_eq_succ_of_ne_zero (Nat.ne_zero_of_lt enough)
    obtain ⟨hahead, hlater⟩ := Cursor.passes_cons.mp hpasses
    obtain ⟨hletter, hlater⟩ := Cursor.passes_cons.mp hlater
    obtain ⟨reached, hunits, hlater⟩ := Cursor.passes_append.mp hlater
    have hescape := escape_eq_ok.mpr
      (Or.inr ⟨units, escape, Cursor.passes_cons.mpr ⟨hletter, hunits⟩⟩)
    refine (peek_bind_eq_ok nofun).mpr ⟨_, hahead, bind_eq_ok.mpr ⟨(), _, rfl, ?_⟩⟩
    refine bind_eq_ok.mpr ⟨found, reached, hescape, ?_⟩
    rw [ih (by grind) hlater]
    simp

/-- What follows a quote up to the quote that closes a string, and the string. -/
def SpelledText (text : Bytes) (found : String) : Prop :=
  ∃ content, StringText text content ∧ Utf8.decode? content = some found

/-- A string is read up to its closing quote. -/
theorem stringContent_eq_ok {cursor last : Cursor} {found : String} :
    stringContent cursor = .ok found last ↔
      ∃ text, SpelledText text found ∧ cursor.Passes text last := by
  constructor
  · intro h
    obtain ⟨_, _, hremaining, hread⟩ := bind_eq_ok.mp h
    cases hremaining
    obtain ⟨bytes, reached, hbytes, hdecoded⟩ := bind_eq_ok.mp hread
    obtain ⟨text, _, htext, hpasses, rfl⟩ := stringText_of_stringBytes hbytes
    cases hother : Utf8.decode? bytes with
    | none =>
      rw [hother] at hdecoded
      cases hdecoded
    | some other =>
      rw [hother] at hdecoded
      obtain ⟨rfl, rfl⟩ := pure_eq_ok.mp hdecoded
      exact ⟨text, ⟨bytes, htext, hother⟩, hpasses⟩
  · rintro ⟨text, ⟨content, htext, hfound⟩, hpasses⟩
    have henough : text.length ≤ cursor.rest.length + 1 := by
      have := hpasses.length
      omega
    refine bind_eq_ok.mpr ⟨_, cursor, rfl, ?_⟩
    refine bind_eq_ok.mpr ⟨content, last, stringBytes_of_stringText htext henough hpasses, ?_⟩
    rw [hfound]
    rfl

/-- What follows a quote up to the quote that closes a string, where nothing is asked of the
characters. -/
inductive QuotedText : Bytes → Prop where
  /-- The closing quote. -/
  | close : QuotedText [byte '"']
  /-- A byte that stands for itself. -/
  | plain {b : UInt8} {text : Bytes} (quote : b ≠ byte '"') (slash : b ≠ byte '\\')
      (control : ¬ b < 0x20) (rest : QuotedText text) : QuotedText (b :: text)
  /-- An escape of one letter. -/
  | short {letter : UInt8} {text : Bytes} (escape : (shortEscape? letter).isSome = true)
      (rest : QuotedText text) : QuotedText (byte '\\' :: letter :: text)
  /-- An escape of a code unit. -/
  | unit {digits text : Bytes} {unit : Nat} (escape : hexUnit? digits = some unit)
      (rest : QuotedText text) : QuotedText (byte '\\' :: byte 'u' :: (digits ++ text))

theorem quotedText_of_skipString {bound : Nat} {cursor last : Cursor}
    (h : skipString bound cursor = .ok () last) :
    ∃ text, QuotedText text ∧ cursor.Passes text last := by
  induction bound generalizing cursor with
  | zero => cases h
  | succ bound ih =>
    obtain ⟨b, hahead, hbyte⟩ := (peek_bind_eq_ok nofun).mp h
    have hfirst := Cursor.passes_advance hahead
    simp only at hbyte
    by_cases hquote : b = byte '"'
    · subst hquote
      obtain rfl := skip_eq_ok.mp hbyte
      exact ⟨_, .close, hfirst⟩
    rw [if_neg (by simpa using hquote)] at hbyte
    by_cases hslash : b = byte '\\'
    · subst hslash
      obtain ⟨_, _, hskip, hescape⟩ := bind_eq_ok.mp hbyte
      obtain rfl := skip_eq_ok.mp hskip
      obtain ⟨letter, hletter, hkind⟩ := (next_bind_eq_ok nofun).mp hescape
      have hsecond := hfirst.trans (Cursor.passes_advance hletter)
      simp only at hkind
      by_cases hu : letter = byte 'u'
      · subst hu
        obtain ⟨unit, _, hdigits, hlater⟩ := bind_eq_ok.mp hkind
        obtain ⟨digits, hunit, hunitPasses⟩ := hexQuad_eq_ok.mp hdigits
        obtain ⟨text, htext, hpasses⟩ := ih hlater
        exact ⟨_, .unit hunit htext, hsecond.trans (hunitPasses.trans hpasses)⟩
      · rw [if_neg (by simpa using hu)] at hkind
        split at hkind
        · next hshort =>
          obtain ⟨text, htext, hpasses⟩ := ih hkind
          exact ⟨_, .short hshort htext, hsecond.trans hpasses⟩
        · cases hkind
    rw [if_neg (by simpa using hslash)] at hbyte
    by_cases hcontrol : b < 0x20
    · rw [if_pos hcontrol] at hbyte
      cases hbyte
    rw [if_neg hcontrol] at hbyte
    obtain ⟨_, _, hskip, hlater⟩ := bind_eq_ok.mp hbyte
    obtain rfl := skip_eq_ok.mp hskip
    obtain ⟨text, htext, hpasses⟩ := ih hlater
    exact ⟨_, .plain hquote hslash hcontrol htext, hfirst.trans hpasses⟩

theorem skipString_of_quotedText {text : Bytes} (h : QuotedText text) {bound : Nat}
    {cursor last : Cursor} (enough : text.length ≤ bound) (hpasses : cursor.Passes text last) :
    skipString bound cursor = .ok () last := by
  induction h generalizing bound cursor with
  | close =>
    obtain ⟨bound, rfl⟩ := Nat.exists_eq_succ_of_ne_zero (Nat.ne_zero_of_lt enough)
    obtain ⟨hahead, rfl⟩ := Cursor.passes_singleton.mp hpasses
    exact (peek_bind_eq_ok nofun).mpr ⟨_, hahead, rfl⟩
  | plain quote slash control rest ih =>
    obtain ⟨bound, rfl⟩ := Nat.exists_eq_succ_of_ne_zero (Nat.ne_zero_of_lt enough)
    obtain ⟨hahead, hlater⟩ := Cursor.passes_cons.mp hpasses
    refine (peek_bind_eq_ok nofun).mpr ⟨_, hahead, ?_⟩
    simp only
    rw [if_neg (by simpa using quote), if_neg (by simpa using slash), if_neg control]
    exact bind_eq_ok.mpr ⟨(), _, rfl, ih (Nat.le_of_succ_le_succ enough) hlater⟩
  | @short letter text escape rest ih =>
    obtain ⟨bound, rfl⟩ := Nat.exists_eq_succ_of_ne_zero (Nat.ne_zero_of_lt enough)
    obtain ⟨hahead, hlater⟩ := Cursor.passes_cons.mp hpasses
    obtain ⟨hletter, hlater⟩ := Cursor.passes_cons.mp hlater
    refine (peek_bind_eq_ok nofun).mpr ⟨_, hahead, bind_eq_ok.mpr ⟨(), _, rfl, ?_⟩⟩
    refine (next_bind_eq_ok nofun).mpr ⟨letter, hletter, ?_⟩
    obtain ⟨found, hfound⟩ := Option.isSome_iff_exists.mp escape
    simp only [beq_u_of_shortEscape? hfound, escape, if_true]
    exact ih (by grind) hlater
  | @unit digits text unit escape rest ih =>
    obtain ⟨bound, rfl⟩ := Nat.exists_eq_succ_of_ne_zero (Nat.ne_zero_of_lt enough)
    obtain ⟨hahead, hlater⟩ := Cursor.passes_cons.mp hpasses
    obtain ⟨hletter, hlater⟩ := Cursor.passes_cons.mp hlater
    obtain ⟨reached, hdigits, hlater⟩ := Cursor.passes_append.mp hlater
    refine (peek_bind_eq_ok nofun).mpr ⟨_, hahead, bind_eq_ok.mpr ⟨(), _, rfl, ?_⟩⟩
    refine (next_bind_eq_ok nofun).mpr ⟨byte 'u', hletter, ?_⟩
    refine bind_eq_ok.mpr ⟨unit, reached, hexQuad_eq_ok.mpr ⟨digits, escape, hdigits⟩, ?_⟩
    exact ih (by grind) hlater

/-- The digits of a code unit, and of a second one, are those of escapes in a quoted text. -/
theorem QuotedText.units {units found text : Bytes} (escape : UnitText units found)
    (rest : QuotedText text) : QuotedText (byte '\\' :: byte 'u' :: (units ++ text)) := by
  cases escape with
  | single digits _ => exact .unit digits rest
  | @pair first more high low digits _ moreDigits _ =>
    have hsecond : QuotedText (byte '\\' :: byte 'u' :: (more ++ text)) := .unit moreDigits rest
    simpa using QuotedText.unit digits hsecond

/-- What spells a string is a quoted text. -/
theorem QuotedText.of_spelled {text : Bytes} {found : String} (h : SpelledText text found) :
    QuotedText text := by
  obtain ⟨content, htext, -⟩ := h
  induction htext with
  | close => exact .close
  | plain quote slash control _ ih => exact .plain quote slash control ih
  | short escape _ ih => exact .short (by simp [escape]) ih
  | unit escape _ ih => exact .units escape ih

/-- Where a string is read as a value it can be passed over. -/
theorem skipValue_of_valueWith {inner : Option (Reader Value)} {cursor last : Cursor}
    {text : String} (h : valueWith inner cursor = .ok (.string text) last) :
    skipValue cursor = .ok () last := by
  obtain ⟨reached, hahead, hcontent⟩ := (valueWith_eq_ok h).1 text rfl
  obtain ⟨spelled, hspelled, hpasses⟩ := stringContent_eq_ok.mp hcontent
  have hlength := hpasses.length
  have hskipped : skipString (reached.advance.rest.length + 1) reached.advance = .ok () last :=
    skipString_of_quotedText (.of_spelled hspelled) (by omega) hpasses
  have hinside : skipInside (cursor.rest.length + 1) [] cursor = .ok () last := by
    refine bind_eq_ok.mpr ⟨(true, []), last, ?_, rfl⟩
    refine bind_eq_ok.mpr ⟨_, reached, hahead, ?_⟩
    refine bind_eq_ok.mpr ⟨(), reached.advance, rfl, ?_⟩
    refine bind_eq_ok.mpr ⟨_, reached.advance, rfl, ?_⟩
    exact bind_eq_ok.mpr ⟨(), last, hskipped, rfl⟩
  exact bind_eq_ok.mpr ⟨_, cursor, rfl, hinside⟩

end Reader

end RelyingParty.Json
