import RelyingParty.Proofs.Json.Numeral
import RelyingParty.Proofs.Json.Passing

/-!
# The texts of numbers

The digits, the fraction and the exponent of a number, and the proof that a number is passed over
exactly where they stand. A number has no end of its own: it is passed over to its end only if what
follows does not continue it.
-/

namespace RelyingParty.Json

open RelyingParty.Text

namespace Reader

/-- A text of decimal digits only. -/
def AllDigits (text : Bytes) : Prop := ∀ b ∈ text, (digit? b).isSome = true

theorem allDigits_nil : AllDigits [] := fun _ h => nomatch h

theorem allDigits_cons {b : UInt8} {text : Bytes} :
    AllDigits (b :: text) ↔ (digit? b).isSome = true ∧ AllDigits text :=
  List.forall_mem_cons

/-- No digit lies ahead. -/
def NoDigit (cursor : Cursor) : Prop := ∀ b ∈ cursor.rest.head?, digit? b = none

/-- A digit is read in front of those behind it. -/
theorem digits_of_digit {b : UInt8} {rest : Bytes} {place : Place} {digit : Nat}
    (h : digit? b = some digit) {last : Cursor} {found : List Nat} :
    digits ⟨b :: rest, place⟩ = .ok found last ↔
      ∃ later, digits ⟨rest, place.after b⟩ = .ok later last ∧ found = digit :: later := by
  simp only [digits, digitRun, h, EStateM.Result.ok.injEq]
  constructor
  · rintro ⟨rfl, rfl⟩
    exact ⟨_, ⟨rfl, rfl⟩, rfl⟩
  · rintro ⟨_, ⟨rfl, rfl⟩, rfl⟩
    exact ⟨rfl, rfl⟩

theorem digits_eq_ok {cursor last : Cursor} {found : List Nat} :
    digits cursor = .ok found last ↔
      ∃ text, AllDigits text ∧ cursor.Passes text last ∧ NoDigit last ∧
        found = text.filterMap digit? := by
  obtain ⟨bytes, place⟩ := cursor
  induction bytes generalizing place found with
  | nil =>
    constructor
    · rintro ⟨⟩
      exact ⟨[], allDigits_nil, Cursor.passes_nil.mpr rfl, nofun, rfl⟩
    · rintro ⟨text, -, ⟨hrest, hplace⟩, -, rfl⟩
      obtain ⟨rfl, hlast⟩ := List.append_eq_nil_iff.mp hrest.symm
      obtain ⟨rest, place⟩ := last
      cases hlast
      cases hplace
      rfl
  | cons b rest ih =>
    cases hdigit : digit? b with
    | some digit =>
      rw [digits_of_digit hdigit]
      constructor
      · rintro ⟨later, hlater, rfl⟩
        obtain ⟨text, htext, hpasses, hend, rfl⟩ := (ih _).mp hlater
        refine ⟨b :: text, allDigits_cons.mpr ⟨by simp [hdigit], htext⟩,
          Cursor.passes_cons.mpr ⟨rfl, hpasses⟩, hend, ?_⟩
        rw [List.filterMap_cons_some hdigit]
      · rintro ⟨text, htext, hpasses, hend, rfl⟩
        cases text with
        | nil =>
          obtain rfl := Cursor.passes_nil.mp hpasses
          exact absurd (hend b rfl) (by simp [hdigit])
        | cons first text =>
          obtain ⟨hhead, hlater⟩ := Cursor.passes_cons.mp hpasses
          obtain rfl := Option.some.inj hhead
          refine ⟨_, (ih _).mpr ⟨text, (allDigits_cons.mp htext).2, hlater, hend, rfl⟩, ?_⟩
          rw [List.filterMap_cons_some hdigit]
    | none =>
      have hsame : digits ⟨b :: rest, place⟩ = .ok [] ⟨b :: rest, place⟩ := by
        simp only [digits, digitRun, hdigit]
      rw [hsame]
      constructor
      · rintro ⟨⟩
        refine ⟨[], allDigits_nil, Cursor.passes_nil.mpr rfl, ?_, rfl⟩
        rintro _ ⟨⟩
        exact hdigit
      · rintro ⟨text, htext, hpasses, -, rfl⟩
        cases text with
        | nil =>
          obtain rfl := Cursor.passes_nil.mp hpasses
          rfl
        | cons first text =>
          obtain ⟨hhead, -⟩ := Cursor.passes_cons.mp hpasses
          obtain rfl := Option.some.inj hhead
          exact absurd (allDigits_cons.mp htext).1 (by simp [hdigit])

/-- Digits of a whole number: no other digit stands behind a zero in front. -/
def WholeText (text : Bytes) : Prop :=
  ∃ first rest, text = first :: rest ∧ AllDigits text ∧ (first = byte '0' → rest = [])

/-- A point and the digits behind it, or nothing. -/
def FractionText (text : Bytes) : Prop :=
  text = [] ∨ ∃ digits, digits ≠ [] ∧ AllDigits digits ∧ text = byte '.' :: digits

/-- The sign of an exponent, or nothing. -/
def signs : List Bytes := [[], [byte '+'], [byte '-']]

/-- An exponent, or nothing. -/
def ExponentText (text : Bytes) : Prop :=
  text = [] ∨ ∃ letter sign digits, letter ∈ [byte 'e', byte 'E'] ∧ sign ∈ signs ∧
    digits ≠ [] ∧ AllDigits digits ∧ text = letter :: (sign ++ digits)

/-- A number without its sign. -/
def UnsignedText (text : Bytes) : Prop :=
  ∃ whole fraction exponent, WholeText whole ∧ FractionText fraction ∧ ExponentText exponent ∧
    text = whole ++ (fraction ++ exponent)

/-- A number, with a minus sign or without one. -/
def NumberText (text : Bytes) : Prop :=
  UnsignedText text ∨ ∃ unsigned, UnsignedText unsigned ∧ text = byte '-' :: unsigned

theorem filterMap_eq_nil_of_allDigits {text : Bytes} (h : AllDigits text) :
    text.filterMap digit? = [] ↔ text = [] := by
  cases text with
  | nil => simp
  | cons b text =>
    obtain ⟨digit, hdigit⟩ := Option.isSome_iff_exists.mp (allDigits_cons.mp h).1
    simp [List.filterMap_cons_some hdigit]

/-- What begins with a digit is read only where one lies ahead. -/
theorem digit_bind_eq_ok {α : Type} {after : Nat → Reader α} {cursor last : Cursor} {value : α} :
    (do
      match (← next).bind digit? with
      | none => fail .badNumber
      | some digit => after digit : Reader α) cursor = .ok value last ↔
      ∃ b digit, cursor.rest.head? = some b ∧ digit? b = some digit ∧
        after digit cursor.advance = .ok value last := by
  rw [next_bind_eq_ok nofun]
  refine exists_congr fun b => ?_
  rw [Option.bind_some]
  cases hdigit : digit? b with
  | none => simp [fail]
  | some digit => simp

/-- Passes over a digit and those behind it. -/
def skipDigits : Reader Unit := do
  match (← next).bind digit? with
  | none => fail .badNumber
  | some _ => let _ ← digits

theorem digits_of_skipDigits {cursor last : Cursor} (h : skipDigits cursor = .ok () last) :
    ∃ text, text ≠ [] ∧ AllDigits text ∧ cursor.Passes text last := by
  obtain ⟨b, digit, hahead, hdigit, hfirst⟩ := digit_bind_eq_ok.mp h
  obtain ⟨_, _, hmore, hdone⟩ := bind_eq_ok.mp hfirst
  obtain ⟨-, rfl⟩ := pure_eq_ok.mp hdone
  obtain ⟨text, htext, hpasses, -⟩ := digits_eq_ok.mp hmore
  exact ⟨b :: text, List.cons_ne_nil _ _, allDigits_cons.mpr ⟨by simp [hdigit], htext⟩,
    Cursor.passes_cons.mpr ⟨hahead, hpasses⟩⟩

theorem skipDigits_of_digits {text : Bytes} (nonempty : text ≠ []) (htext : AllDigits text)
    {cursor last : Cursor} (hpasses : cursor.Passes text last) (hend : NoDigit last) :
    skipDigits cursor = .ok () last := by
  obtain ⟨b, more, rfl⟩ := List.exists_cons_of_ne_nil nonempty
  obtain ⟨hahead, hmore⟩ := Cursor.passes_cons.mp hpasses
  obtain ⟨hb, hall⟩ := allDigits_cons.mp htext
  obtain ⟨digit, hdigit⟩ := Option.isSome_iff_exists.mp hb
  have hdigits := digits_eq_ok.mpr ⟨more, hall, hmore, hend, rfl⟩
  exact digit_bind_eq_ok.mpr ⟨b, digit, hahead, hdigit, bind_eq_ok.mpr ⟨_, last, hdigits, rfl⟩⟩

theorem skipExponent_eq (cursor : Cursor) :
    skipExponent cursor =
      if cursor.rest.head? = some (byte '-') ∨ cursor.rest.head? = some (byte '+') then
        skipDigits cursor.advance
      else skipDigits cursor := by
  rw [skipExponent, peek_bind]
  simp only [Bool.or_eq_true, beq_iff_eq]
  split <;> rfl

theorem exponent_of_skipExponent {cursor last : Cursor} (h : skipExponent cursor = .ok () last) :
    ∃ sign digits, sign ∈ signs ∧ digits ≠ [] ∧ AllDigits digits ∧
      cursor.Passes (sign ++ digits) last := by
  rw [skipExponent_eq] at h
  split at h
  · next hsign =>
    obtain ⟨text, hnonempty, htext, hpasses⟩ := digits_of_skipDigits h
    rcases hsign with hminus | hplus
    · exact ⟨[byte '-'], text, by simp [signs], hnonempty, htext,
        Cursor.passes_cons.mpr ⟨hminus, hpasses⟩⟩
    · exact ⟨[byte '+'], text, by simp [signs], hnonempty, htext,
        Cursor.passes_cons.mpr ⟨hplus, hpasses⟩⟩
  · obtain ⟨text, hnonempty, htext, hpasses⟩ := digits_of_skipDigits h
    exact ⟨[], text, by simp [signs], hnonempty, htext, hpasses⟩

theorem skipExponent_of_exponent {sign text : Bytes} (hsign : sign ∈ signs)
    (nonempty : text ≠ []) (htext : AllDigits text) {cursor last : Cursor}
    (hpasses : cursor.Passes (sign ++ text) last) (hend : NoDigit last) :
    skipExponent cursor = .ok () last := by
  rw [skipExponent_eq]
  simp only [signs, List.mem_cons, List.not_mem_nil, or_false] at hsign
  rcases hsign with rfl | rfl | rfl
  · obtain ⟨b, more, rfl⟩ := List.exists_cons_of_ne_nil nonempty
    obtain ⟨hahead, -⟩ := Cursor.passes_cons.mp hpasses
    have hdigit := (allDigits_cons.mp htext).1
    rw [if_neg, skipDigits_of_digits nonempty htext hpasses hend]
    rw [hahead, Option.some.injEq, Option.some.injEq]
    rintro (rfl | rfl) <;> exact absurd hdigit (by decide)
  · obtain ⟨hahead, hlater⟩ := Cursor.passes_cons.mp hpasses
    rw [if_pos (Or.inr hahead), skipDigits_of_digits nonempty htext hlater hend]
  · obtain ⟨hahead, hlater⟩ := Cursor.passes_cons.mp hpasses
    rw [if_pos (Or.inl hahead), skipDigits_of_digits nonempty htext hlater hend]

/-- The end of a number: an exponent if one lies ahead. -/
def skipExponentPart : Reader Unit := do
  if ← exponentAhead then
    skip
    skipExponent

theorem skipExponentPart_eq (cursor : Cursor) :
    skipExponentPart cursor =
      if cursor.rest.head? = some (byte 'e') ∨ cursor.rest.head? = some (byte 'E') then
        skipExponent cursor.advance
      else .ok () cursor := by
  change (if (cursor.rest.head? == some (byte 'e') || cursor.rest.head? == some (byte 'E')) = true
    then _ else _ : Reader Unit) cursor = _
  simp only [Bool.or_eq_true, beq_iff_eq]
  split <;> rfl

theorem exponentText_of_skipExponentPart {cursor last : Cursor}
    (h : skipExponentPart cursor = .ok () last) :
    ∃ text, ExponentText text ∧ cursor.Passes text last := by
  rw [skipExponentPart_eq] at h
  split at h
  · next hletter =>
    obtain ⟨sign, digits, hsign, hnonempty, hdigits, hpasses⟩ := exponent_of_skipExponent h
    rcases hletter with hletter | hletter
    · exact ⟨_, Or.inr ⟨_, sign, digits, by simp, hsign, hnonempty, hdigits, rfl⟩,
        Cursor.passes_cons.mpr ⟨hletter, hpasses⟩⟩
    · exact ⟨_, Or.inr ⟨_, sign, digits, by simp, hsign, hnonempty, hdigits, rfl⟩,
        Cursor.passes_cons.mpr ⟨hletter, hpasses⟩⟩
  · cases h
    exact ⟨[], Or.inl rfl, Cursor.passes_nil.mpr rfl⟩

/-- What follows does not continue the number. -/
theorem noDigit_of_ends {cursor : Cursor} (h : Numeral.Ends cursor.rest) : NoDigit cursor :=
  fun b hb => (h b hb).1

theorem skipExponentPart_of_exponentText {text : Bytes} (htext : ExponentText text)
    {cursor last : Cursor} (hpasses : cursor.Passes text last) (ends : Numeral.Ends last.rest) :
    skipExponentPart cursor = .ok () last := by
  rw [skipExponentPart_eq]
  rcases htext with rfl | ⟨letter, sign, digits, hletter, hsign, hnonempty, hdigits, rfl⟩
  · obtain rfl := Cursor.passes_nil.mp hpasses
    rw [if_neg]
    rintro (hhead | hhead)
    · exact (ends _ hhead).2 (by simp)
    · exact (ends _ hhead).2 (by simp)
  · obtain ⟨hahead, hlater⟩ := Cursor.passes_cons.mp hpasses
    rw [if_pos, skipExponent_of_exponent hsign hnonempty hdigits hlater (noDigit_of_ends ends)]
    simpa [hahead] using hletter

/-- The rest of a number behind its whole digits: a fraction and an exponent if they lie ahead. -/
def skipFractionPart : Reader Unit := do
  if (← peek) == some (byte '.') then
    skip
    if (← digits).isEmpty then failAhead .badNumber
  skipExponentPart

theorem fractionText_of_skipFractionPart {cursor last : Cursor}
    (h : skipFractionPart cursor = .ok () last) :
    ∃ fraction exponent, FractionText fraction ∧ ExponentText exponent ∧
      cursor.Passes (fraction ++ exponent) last := by
  rw [skipFractionPart, peek_bind] at h
  split at h
  · next hpoint =>
    rw [beq_iff_eq] at hpoint
    rw [skip_bind] at h
    obtain ⟨_, reached, hdigits, hrest⟩ := bind_eq_ok.mp h
    obtain ⟨fraction, hall, hpasses, -, rfl⟩ := digits_eq_ok.mp hdigits
    split at hrest
    · obtain ⟨_, _, hfail, -⟩ := bind_eq_ok.mp hrest
      cases hfail
    next hnonempty =>
    rw [List.isEmpty_iff, filterMap_eq_nil_of_allDigits hall] at hnonempty
    obtain ⟨exponent, hexponent, hlater⟩ := exponentText_of_skipExponentPart hrest
    exact ⟨_, exponent, Or.inr ⟨fraction, hnonempty, hall, rfl⟩, hexponent,
      (Cursor.passes_cons.mpr ⟨hpoint, hpasses⟩).trans hlater⟩
  · obtain ⟨exponent, hexponent, hpasses⟩ := exponentText_of_skipExponentPart h
    exact ⟨[], exponent, Or.inl rfl, hexponent, hpasses⟩

/-- An exponent begins with its letter. -/
theorem head?_of_exponentText {text : Bytes} (htext : ExponentText text) {cursor last : Cursor}
    (hpasses : cursor.Passes text last) (ends : Numeral.Ends last.rest) :
    NoDigit cursor ∧ cursor.rest.head? ≠ some (byte '.') := by
  rcases htext with rfl | ⟨letter, sign, digits, hletter, -, -, -, rfl⟩
  · obtain rfl := Cursor.passes_nil.mp hpasses
    exact ⟨noDigit_of_ends ends, fun hhead => (ends _ hhead).2 (by simp)⟩
  · obtain ⟨hahead, -⟩ := Cursor.passes_cons.mp hpasses
    obtain ⟨hdigit, hpoint⟩ : digit? letter = none ∧ letter ≠ byte '.' := by
      rw [List.mem_cons, List.mem_singleton] at hletter
      rcases hletter with rfl | rfl <;> decide
    refine ⟨?_, ?_⟩
    · intro b hb
      rw [hahead] at hb
      obtain rfl := Option.some.inj hb
      exact hdigit
    · rw [hahead]
      exact fun h => hpoint (Option.some.inj h)

theorem skipFractionPart_of_fractionText {fraction exponent : Bytes}
    (hfraction : FractionText fraction) (hexponent : ExponentText exponent) {cursor last : Cursor}
    (hpasses : cursor.Passes (fraction ++ exponent) last) (ends : Numeral.Ends last.rest) :
    NoDigit cursor ∧ skipFractionPart cursor = .ok () last := by
  rw [skipFractionPart, peek_bind]
  obtain ⟨middle, hpoint, hlater⟩ := Cursor.passes_append.mp hpasses
  obtain ⟨hend, hdot⟩ := head?_of_exponentText hexponent hlater ends
  have hpart := skipExponentPart_of_exponentText hexponent hlater ends
  rcases hfraction with rfl | ⟨digits, hnonempty, hall, rfl⟩
  · obtain rfl := Cursor.passes_nil.mp hpoint
    rw [if_neg (by simpa using hdot)]
    exact ⟨hend, hpart⟩
  · obtain ⟨hahead, hdigits⟩ := Cursor.passes_cons.mp hpoint
    refine ⟨?_, ?_⟩
    · intro b hb
      rw [hahead] at hb
      obtain rfl := Option.some.inj hb
      decide
    · rw [if_pos (by simp [hahead]), skip_bind]
      refine bind_eq_ok.mpr ⟨_, middle, digits_eq_ok.mpr ⟨digits, hall, hdigits, hend, rfl⟩, ?_⟩
      rw [if_neg]
      · exact hpart
      · rwa [List.isEmpty_iff, filterMap_eq_nil_of_allDigits hall]

theorem eq_zero_iff_of_digit? {b : UInt8} {digit : Nat} (h : digit? b = some digit) :
    digit = 0 ↔ b = byte '0' := by
  unfold digit? at h
  split at h
  · next hbounds =>
    rw [Bool.and_eq_true, decide_eq_true_eq, decide_eq_true_eq, UInt8.le_iff_toNat_le] at hbounds
    have hlow : 48 ≤ b.toNat := hbounds.1
    have hzero : (byte '0').toNat = 48 := by decide
    obtain rfl := Option.some.inj h
    rw [← UInt8.toNat_inj, hzero]
    omega
  · cases h

theorem unsignedText_of_skipUnsigned {cursor last : Cursor}
    (h : skipUnsigned cursor = .ok () last) :
    ∃ text, UnsignedText text ∧ cursor.Passes text last := by
  obtain ⟨b, digit, hahead, hdigit, hfirst⟩ := digit_bind_eq_ok.mp h
  rw [peek_bind] at hfirst
  split at hfirst
  · cases hfirst
  next hzero =>
  obtain ⟨_, reached, hdigits, hpoint⟩ := bind_eq_ok.mp hfirst
  obtain ⟨more, hall, hpasses, -, rfl⟩ := digits_eq_ok.mp hdigits
  change skipFractionPart reached = _ at hpoint
  obtain ⟨fraction, exponent, hfraction, hexponent, hlater⟩ :=
    fractionText_of_skipFractionPart hpoint
  have hwhole : WholeText (b :: more) := by
    refine ⟨b, more, rfl, allDigits_cons.mpr ⟨by simp [hdigit], hall⟩, ?_⟩
    intro hb
    cases more with
    | nil => rfl
    | cons next more =>
      obtain ⟨hnext, -⟩ := Cursor.passes_cons.mp hpasses
      refine absurd ?_ hzero
      rw [Bool.and_eq_true, beq_iff_eq, eq_zero_iff_of_digit? hdigit, hnext]
      exact ⟨hb, (allDigits_cons.mp hall).1⟩
  exact ⟨_, ⟨_, fraction, exponent, hwhole, hfraction, hexponent, rfl⟩,
    (Cursor.passes_cons.mpr ⟨hahead, hpasses⟩).trans hlater⟩

theorem skipUnsigned_of_unsignedText {text : Bytes} (htext : UnsignedText text)
    {cursor last : Cursor} (hpasses : cursor.Passes text last) (ends : Numeral.Ends last.rest) :
    skipUnsigned cursor = .ok () last := by
  obtain ⟨_, fraction, exponent, ⟨b, more, rfl, hall, hzero⟩, hfraction, hexponent, rfl⟩ := htext
  obtain ⟨hb, hmore⟩ := allDigits_cons.mp hall
  obtain ⟨digit, hdigit⟩ := Option.isSome_iff_exists.mp hb
  obtain ⟨hahead, hlater⟩ := Cursor.passes_cons.mp hpasses
  obtain ⟨reached, hdigits, hrest⟩ := Cursor.passes_append.mp hlater
  obtain ⟨hend, hpart⟩ := skipFractionPart_of_fractionText hfraction hexponent hrest ends
  refine digit_bind_eq_ok.mpr ⟨b, digit, hahead, hdigit, ?_⟩
  rw [peek_bind, if_neg]
  · exact bind_eq_ok.mpr ⟨_, reached, digits_eq_ok.mpr ⟨more, hmore, hdigits, hend, rfl⟩, hpart⟩
  · rw [Bool.and_eq_true, beq_iff_eq, eq_zero_iff_of_digit? hdigit]
    rintro ⟨hb, hsome⟩
    obtain rfl := hzero hb
    obtain rfl := Cursor.passes_nil.mp hdigits
    obtain ⟨other, hother⟩ := Option.isSome_iff_exists.mp hsome
    obtain ⟨next, hnext, hdigit⟩ := Option.bind_eq_some_iff.mp hother
    exact absurd (hend next hnext) (by simp [hdigit])

end Reader

end RelyingParty.Json
