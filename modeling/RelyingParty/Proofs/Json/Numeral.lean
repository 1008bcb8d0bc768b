import RelyingParty.Proofs.Json.Reading
import RelyingParty.Proofs.Numeric.Rounding
import RelyingParty.Token

/-!
# Reading whole numbers of any size

A whole number that is written without point and exponent is read exactly as long as it fits into 64
bits, and as a binary floating-point number beyond. There it may be rounded, several times, but it is
never rounded back into the signed 64-bit range: as a signed 64-bit number it stands for the end of
the range that it lies beyond.
-/

namespace RelyingParty.Json

open RelyingParty.Text RelyingParty.Numeric

/-- A whole number as a document writes it: a sign or none, and digits, of which the first is zero
only if it is the only one. -/
structure Numeral where
  /-- Whether there is a minus sign. -/
  negative : Bool
  /-- The first digit. -/
  first : Nat
  /-- The digits after the first. -/
  rest : List Nat
  /-- The first digit is one. -/
  first_lt : first < 10
  /-- The others are digits. -/
  rest_lt : ∀ digit ∈ rest, digit < 10
  /-- There is no zero in front of other digits. -/
  rest_eq_nil : first = 0 → rest = []

namespace Numeral

/-- The number that digits stand for after the number in front of them. -/
def magnitudeFrom (start : Nat) (digits : List Nat) : Nat :=
  digits.foldl (fun seen digit => seen * 10 + digit) start

/-- The number without its sign. -/
def magnitude (numeral : Numeral) : Nat := magnitudeFrom numeral.first numeral.rest

/-- The number. -/
def value (numeral : Numeral) : Int :=
  if numeral.negative then -(numeral.magnitude : Int) else numeral.magnitude

/-- The byte of a digit. -/
def digitByte (digit : Nat) : UInt8 := UInt8.ofNat (0x30 + digit)

/-- The bytes of the digits. -/
def digitBytes (numeral : Numeral) : Bytes := (numeral.first :: numeral.rest).map digitByte

/-- The bytes in the document. -/
def bytes (numeral : Numeral) : Bytes :=
  if numeral.negative then Reader.byte '-' :: numeral.digitBytes else numeral.digitBytes

/-- What follows does not continue a whole number, nor turn it into another one. -/
def Ends (tail : Bytes) : Prop :=
  ∀ b ∈ tail.head?, Reader.digit? b = none ∧ b ∉ [Reader.byte '.', Reader.byte 'e', Reader.byte 'E']

/-- A value is what a reader of values gets where the number stands, somewhere in a document. -/
def ReadsAs (numeral : Numeral) (value : Value) : Prop :=
  ∃ depth tail place reached, Ends tail ∧
    Reader.value depth ⟨numeral.bytes ++ tail, place⟩ = .ok value reached

/-- Minus twelve, as it is usually written. -/
example : (⟨true, 1, [2], by decide, by decide, by decide⟩ : Numeral).bytes = Utf8.encode "-12" := by
  decide

theorem digit?_digitByte {digit : Nat} (h : digit < 10) :
    Reader.digit? (digitByte digit) = some digit := by
  have hall : ∀ digit < 10, Reader.digit? (digitByte digit) = some digit := by decide
  exact hall digit h

/-- A byte that a number begins with is no blank and does not begin a word. -/
theorem starts_number {b : UInt8}
    (h : b = Reader.byte '-' ∨ ∃ digit < 10, b = digitByte digit) :
    Reader.isBlankByte b = false ∧ (b == Reader.byte 'n') = false ∧
      (b == Reader.byte 't') = false ∧ (b == Reader.byte 'f') = false ∧
      (b == Reader.byte '-' || (Reader.digit? b).isSome) = true := by
  rcases h with rfl | ⟨digit, hdigit, rfl⟩
  · decide
  · have hall : ∀ digit < 10, Reader.isBlankByte (digitByte digit) = false ∧
        (digitByte digit == Reader.byte 'n') = false ∧
        (digitByte digit == Reader.byte 't') = false ∧
        (digitByte digit == Reader.byte 'f') = false ∧
        (digitByte digit == Reader.byte '-' || (Reader.digit? (digitByte digit)).isSome) = true := by
      decide
    exact hall digit hdigit

theorem magnitudeFrom_cons (start digit : Nat) (digits : List Nat) :
    magnitudeFrom start (digit :: digits) = magnitudeFrom (start * 10 + digit) digits := rfl

theorem le_magnitudeFrom (start : Nat) (digits : List Nat) :
    start ≤ magnitudeFrom start digits := by
  induction digits generalizing start with
  | nil => exact Nat.le_refl start
  | cons digit digits ih =>
    have hrest := ih (start * 10 + digit)
    rw [magnitudeFrom_cons]
    omega

/-- The digits that fit into a word are the number, or the number does not fit and there are nearly
as many digits of it as do. -/
theorem addWhole_spec {start : Nat} {digits : List Nat} (small : start ≤ Reader.wordMax)
    (digits_lt : ∀ digit ∈ digits, digit < 10) :
    (Reader.addWhole start digits).2 = 0 ∧
        (Reader.addWhole start digits).1 = magnitudeFrom start digits ∨
      (Reader.addWhole start digits).2 ≠ 0 ∧
        Reader.wordMax < (Reader.addWhole start digits).1 * 10 + 10 ∧
        Reader.wordMax < magnitudeFrom start digits := by
  induction digits generalizing start with
  | nil => exact Or.inl ⟨rfl, rfl⟩
  | cons digit digits ih =>
    obtain ⟨hdigit, hdigits⟩ := List.forall_mem_cons.mp digits_lt
    rw [Reader.addWhole, magnitudeFrom_cons]
    by_cases hfull : Reader.wordMax < start * 10 + digit
    · rw [if_pos hfull]
      have hgrows := le_magnitudeFrom (start * 10 + digit) digits
      exact Or.inr ⟨Nat.succ_ne_zero _, by omega, by omega⟩
    · rw [if_neg hfull]
      exact ih (Nat.le_of_not_lt hfull) hdigits

/-- Digits are read up to what follows them. -/
theorem digitRun_digitBytes {digits : List Nat} {tail : Bytes}
    (digits_lt : ∀ digit ∈ digits, digit < 10) (ends : Ends tail) (place : Place) :
    ∃ last, Reader.digitRun place (digits.map digitByte ++ tail) = (digits, ⟨tail, last⟩) := by
  induction digits generalizing place with
  | nil =>
    refine ⟨place, ?_⟩
    cases tail with
    | nil => rfl
    | cons b rest =>
      have hdigit : Reader.digit? b = none := (ends b rfl).1
      simp only [List.map_nil, List.nil_append, Reader.digitRun, hdigit]
  | cons digit digits ih =>
    obtain ⟨hdigit, hdigits⟩ := List.forall_mem_cons.mp digits_lt
    obtain ⟨last, hlast⟩ := ih hdigits (place.after (digitByte digit))
    refine ⟨last, ?_⟩
    simp only [List.map_cons, List.cons_append, Reader.digitRun, digit?_digitByte hdigit, hlast]

/-- What follows a number is neither a point nor an exponent. -/
theorem Ends.head?_ne {tail : Bytes} (ends : Ends tail) {b : UInt8}
    (h : b ∈ [Reader.byte '.', Reader.byte 'e', Reader.byte 'E']) :
    (tail.head? == some b) = false := by
  apply beq_eq_false_iff_ne.mpr
  intro hhead
  exact (ends b hhead).2 h

/-- Where the digits stand, the number is made of them. -/
theorem wholeNumber_of_unsignedNumber {numeral : Numeral} {tail : Bytes} (ends : Ends tail)
    {negative : Bool} {place : Place} {number : Number} {last : Cursor}
    (h : Reader.unsignedNumber negative ⟨numeral.digitBytes ++ tail, place⟩ = .ok number last) :
    ∃ reached, Reader.wholeNumber negative (Reader.addWhole numeral.first numeral.rest).1
      (Reader.addWhole numeral.first numeral.rest).2 reached = .ok number last := by
  obtain ⟨_, _, hnext, hfirst⟩ := Reader.bind_eq_ok.mp h
  cases hnext
  have hhead : (numeral.digitBytes ++ tail).head? = some (digitByte numeral.first) := rfl
  simp only [hhead, digit?_digitByte numeral.first_lt] at hfirst
  obtain ⟨_, _, hpeek, hzero⟩ := Reader.bind_eq_ok.mp hfirst
  cases hpeek
  split at hzero
  · cases hzero
  · obtain ⟨digits, reached, hdigits, hwhole⟩ := Reader.bind_eq_ok.mp hzero
    obtain ⟨behind, hrun⟩ := digitRun_digitBytes numeral.rest_lt ends
      (place.after (digitByte numeral.first))
    have hread : Reader.digits
        ⟨numeral.rest.map digitByte ++ tail, place.after (digitByte numeral.first)⟩ =
          .ok numeral.rest ⟨tail, behind⟩ := by
      rw [Reader.digits, hrun]
    obtain ⟨rfl, rfl⟩ := EStateM.Result.ok.inj (hread.symm.trans hdigits)
    obtain ⟨_, _, hpeek, hpoint⟩ := Reader.bind_eq_ok.mp hwhole
    cases hpeek
    simp only [ends.head?_ne (b := Reader.byte '.') (by simp), Bool.false_eq_true,
      if_false] at hpoint
    obtain ⟨_, _, hahead, hexponent⟩ := Reader.bind_eq_ok.mp hpoint
    obtain ⟨_, _, hpeek, hletter⟩ := Reader.bind_eq_ok.mp hahead
    cases hpeek
    obtain ⟨rfl, rfl⟩ := Reader.pure_eq_ok.mp hletter
    simp only [ends.head?_ne (b := Reader.byte 'e') (by simp),
      ends.head?_ne (b := Reader.byte 'E') (by simp), Bool.or_false, Bool.false_eq_true,
      if_false] at hexponent
    exact ⟨_, hexponent⟩

/-- Beyond the words the number is rounded, but stays beyond the signed 64-bit range. -/
theorem toInt64_of_real (negative : Bool) (magnitude : Nat) {significand dropped : Nat}
    {number : Number} {cursor last : Cursor} (large : 9223372036854775808 ≤ magnitude)
    (reached : ∃ power ten, 2 ^ power ≤ significand ∧ 2 ^ ten ≤ 10 ^ dropped ∧ 63 ≤ power + ten)
    (h : Reader.real negative (Binary64.ofDecimal? significand dropped) cursor = .ok number last) :
    number.toInt64 = clampInt64 (if negative then -(magnitude : Int) else magnitude) := by
  obtain ⟨power, ten, hpower, hten, hsum⟩ := reached
  cases hx : Binary64.ofDecimal? significand dropped with
  | none =>
    rw [hx] at h
    cases h
  | some x =>
    rw [hx] at h
    obtain ⟨rfl, _⟩ := Reader.pure_eq_ok.mp h
    have hbound : (9223372036854775808 : Nat) ≤ 2 ^ (power + ten) := by
      calc (9223372036854775808 : Nat) = 2 ^ 63 := by norm_num
        _ ≤ 2 ^ (power + ten) := Nat.pow_le_pow_right (by decide) hsum
    have htruncated := (Binary64.AtLeast.of_ofDecimal? hpower hten hx).truncate negative
    generalize 2 ^ (power + ten) = bound at hbound htruncated
    have hmin : int64Min = -9223372036854775808 := rfl
    have hmax : int64Max = 9223372036854775807 := rfl
    cases negative with
    | true =>
      simp only [if_true] at htruncated ⊢
      rw [Number.toInt64, clampInt64_of_le (by omega), clampInt64_of_le (by omega)]
    | false =>
      simp only [Bool.false_eq_true, if_false] at htruncated ⊢
      rw [Number.toInt64, clampInt64_of_ge (by omega), clampInt64_of_ge (by omega)]

/-- Zero with a minus sign is a zero. -/
theorem toInt64_of_minusZero {number : Number} {cursor last : Cursor}
    (h : Reader.real true (Binary64.ofDecimal? 0 0) cursor = .ok number last) :
    number.toInt64 = 0 := by
  have hzero : Binary64.ofDecimal? 0 0 = some .zero := by decide +kernel
  rw [hzero] at h
  obtain ⟨rfl, _⟩ := Reader.pure_eq_ok.mp h
  decide +kernel

/-- The number that is made of the digits stands for the nearest signed 64-bit number. -/
theorem toInt64_of_wholeNumber {numeral : Numeral} {number : Number} {cursor last : Cursor}
    (h : Reader.wholeNumber numeral.negative (Reader.addWhole numeral.first numeral.rest).1
      (Reader.addWhole numeral.first numeral.rest).2 cursor = .ok number last) :
    number.toInt64 = clampInt64 numeral.value := by
  have hsmall : numeral.first ≤ Reader.wordMax := by
    have hfirst := numeral.first_lt
    unfold Reader.wordMax UInt64.size
    omega
  unfold Reader.wholeNumber at h
  rcases addWhole_spec hsmall numeral.rest_lt with ⟨hdropped, hexact⟩ | ⟨hdropped, hmany, hlarge⟩
  · rw [if_pos hdropped, hexact] at h
    unfold value magnitude
    generalize magnitudeFrom numeral.first numeral.rest = magnitude at h ⊢
    cases hsign : numeral.negative with
    | false =>
      rw [hsign] at h
      obtain ⟨rfl, _⟩ := Reader.pure_eq_ok.mp h
      rfl
    | true =>
      rw [hsign] at h
      simp only [Bool.not_true, Bool.false_eq_true, if_false] at h
      split at h
      · next hreal =>
        rw [Bool.or_eq_true, decide_eq_true_eq, decide_eq_true_eq] at hreal
        rcases hreal with rfl | hbeyond
        · rw [toInt64_of_minusZero h]
          rfl
        · have hreached : 9223372036854775808 < magnitude := hbeyond
          refine toInt64_of_real true magnitude hreached.le ⟨63, 0, ?_, le_refl _, le_refl _⟩ h
          norm_num
          exact hreached.le
      · obtain ⟨rfl, _⟩ := Reader.pure_eq_ok.mp h
        rfl
  · rw [if_neg hdropped] at h
    unfold Reader.wordMax UInt64.size at hmany hlarge
    have hten : 2 ^ 3 ≤ 10 ^ (Reader.addWhole numeral.first numeral.rest).2 := by
      calc 2 ^ 3 ≤ 10 ^ 1 := by norm_num
        _ ≤ 10 ^ (Reader.addWhole numeral.first numeral.rest).2 :=
          Nat.pow_le_pow_right (by decide) (Nat.one_le_iff_ne_zero.mpr hdropped)
    refine toInt64_of_real numeral.negative numeral.magnitude ?_ ⟨60, 3, ?_, hten, le_refl _⟩ h
    · unfold magnitude
      omega
    · norm_num
      omega

/-- A value that begins like a number is one. -/
theorem number_of_value {depth : Nat} {b : UInt8} {rest : Bytes} {place : Place} {value : Value}
    {last : Cursor}
    (begins : b = Reader.byte '-' ∨ ∃ digit < 10, b = digitByte digit)
    (h : Reader.value depth ⟨b :: rest, place⟩ = .ok value last) :
    ∃ number, value = .number number ∧ Reader.number ⟨b :: rest, place⟩ = .ok number last := by
  obtain ⟨hblank, hn, ht, hf, hnumber⟩ := starts_number begins
  have hahead : Reader.peekPastBlanks ⟨b :: rest, place⟩ = .ok (some b) ⟨b :: rest, place⟩ := by
    simp only [Reader.peekPastBlanks, Reader.afterBlanks, hblank, Bool.false_eq_true, if_false,
      List.head?_cons]
  have hinner : ∃ inner, Reader.valueWith inner ⟨b :: rest, place⟩ = .ok value last := by
    cases depth with
    | zero => exact ⟨_, h⟩
    | succ depth => exact ⟨_, h⟩
  obtain ⟨inner, hvalue⟩ := hinner
  obtain ⟨_, _, hpeek, hread⟩ := Reader.bind_eq_ok.mp hvalue
  obtain ⟨rfl, rfl⟩ := EStateM.Result.ok.inj (hahead.symm.trans hpeek)
  simp only [hn, ht, hf, hnumber, Bool.false_eq_true, if_false, if_true] at hread
  obtain ⟨number, _, hfound, hresult⟩ := Reader.bind_eq_ok.mp hread
  obtain ⟨rfl, rfl⟩ := Reader.pure_eq_ok.mp hresult
  exact ⟨number, rfl, hfound⟩

/-- The number that is read is made of the digits. -/
theorem wholeNumber_of_number {numeral : Numeral} {tail : Bytes} (ends : Ends tail) {place : Place}
    {number : Number} {last : Cursor}
    (h : Reader.number ⟨numeral.bytes ++ tail, place⟩ = .ok number last) :
    ∃ reached, Reader.wholeNumber numeral.negative (Reader.addWhole numeral.first numeral.rest).1
      (Reader.addWhole numeral.first numeral.rest).2 reached = .ok number last := by
  obtain ⟨_, _, hpeek, hsigned⟩ := Reader.bind_eq_ok.mp h
  cases hpeek
  unfold bytes at hsigned
  cases hsign : numeral.negative with
  | true =>
    simp only [hsign, if_true, List.cons_append, List.head?_cons, beq_self_eq_true] at hsigned
    obtain ⟨_, _, hskip, hdigits⟩ := Reader.bind_eq_ok.mp hsigned
    cases hskip
    exact wholeNumber_of_unsignedNumber ends hdigits
  | false =>
    have hhead : ((numeral.digitBytes ++ tail).head? == some (Reader.byte '-')) = false := by
      have hall : ∀ digit < 10, (some (digitByte digit) == some (Reader.byte '-')) = false := by
        decide
      exact hall numeral.first numeral.first_lt
    simp only [hsign, Bool.false_eq_true, if_false, hhead] at hsigned
    exact wholeNumber_of_unsignedNumber ends hsigned

/-- A whole number of any size is read as a number that stands for the nearest signed 64-bit
number. -/
theorem ReadsAs.toInt64 {numeral : Numeral} {value : Value} (h : numeral.ReadsAs value) :
    ∃ number, value = .number number ∧ number.toInt64 = clampInt64 numeral.value := by
  obtain ⟨depth, tail, place, last, ends, hread⟩ := h
  have hbegins : ∃ b rest, numeral.bytes ++ tail = b :: rest ∧
      (b = Reader.byte '-' ∨ ∃ digit < 10, b = digitByte digit) := by
    unfold bytes
    split
    · exact ⟨_, _, rfl, Or.inl rfl⟩
    · exact ⟨_, _, rfl, Or.inr ⟨numeral.first, numeral.first_lt, rfl⟩⟩
  obtain ⟨b, rest, hbytes, hb⟩ := hbegins
  rw [hbytes] at hread
  obtain ⟨number, rfl, hnumber⟩ := number_of_value hb hread
  rw [← hbytes] at hnumber
  obtain ⟨_, hwhole⟩ := wholeNumber_of_number ends hnumber
  exact ⟨number, rfl, toInt64_of_wholeNumber hwhole⟩

end Numeral

end RelyingParty.Json
