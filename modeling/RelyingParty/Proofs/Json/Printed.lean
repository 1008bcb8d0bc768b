import RelyingParty.Json.Printer
import RelyingParty.Proofs.Json.Members

/-!
# The texts of printed values

A string is printed so that it is read as itself, whatever characters it has, and a whole number that
fits into 64 bits likewise.
-/

namespace RelyingParty

namespace Text.Utf8

/-- A text is encoded character by character. -/
theorem encode_eq_flatMap (text : String) :
    encode text = text.toList.flatMap String.utf8EncodeChar := by
  have hbytes : text.toUTF8 = text.toList.utf8Encode := by
    rw [String.toUTF8_eq_toByteArray, ← String.toByteArray_ofList, String.ofList_toList]
  rw [encode, hbytes, List.utf8Encode, List.data_toByteArray]

theorem encode_append (first last : String) :
    encode (first ++ last) = encode first ++ encode last := by
  simp only [encode_eq_flatMap, String.toList_append, List.flatMap_append]

theorem encode_char (c : Char) : encode c.toString = String.utf8EncodeChar c := by
  rw [encode_eq_flatMap, Char.toString, String.toList_singleton]
  exact List.append_nil _

end Text.Utf8

namespace Json.Reader

open Text

/-- A byte that stands for itself in a string. -/
def IsPlain (b : UInt8) : Prop := b ≠ byte '"' ∧ b ≠ byte '\\' ∧ ¬ b < 0x20

instance (b : UInt8) : Decidable (IsPlain b) := inferInstanceAs (Decidable (_ ∧ _ ∧ _))

theorem StringText.plain_append {bytes text content : Bytes} (plain : ∀ b ∈ bytes, IsPlain b)
    (rest : StringText text content) : StringText (bytes ++ text) (bytes ++ content) := by
  induction bytes with
  | nil => exact rest
  | cons b bytes ih =>
    obtain ⟨⟨hquote, hslash, hcontrol⟩, hbytes⟩ := List.forall_mem_cons.mp plain
    exact .plain hquote hslash hcontrol (ih hbytes)

/-- Large bytes stand for themselves. -/
theorem isPlain_of_le {b : UInt8} (h : 0x80 ≤ b.toNat) : IsPlain b := by
  refine ⟨?_, ?_, ?_⟩
  · rintro rfl
    exact absurd h (by decide)
  · rintro rfl
    exact absurd h (by decide)
  · rw [UInt8.lt_iff_toNat_lt]
    have hcontrol : (0x20 : UInt8).toNat = 0x20 := rfl
    omega

/-- The bytes of a character that is not escaped stand for themselves. -/
theorem isPlain_of_mem {c : Char} (quote : c ≠ '"') (slash : c ≠ '\\') (control : ¬ c.toNat < 0x20)
    {b : UInt8} (hb : b ∈ String.utf8EncodeChar c) : IsPlain b := by
  have hall : ∀ k : Fin 128, Char.ofNat k ≠ '"' → Char.ofNat k ≠ '\\' → ¬ k.val < 0x20 →
      IsPlain (UInt8.ofNat k) := by
    decide +kernel
  by_cases hascii : c.toNat < 128
  · have hbyte : String.utf8EncodeChar c = [UInt8.ofNat c.toNat] := by
      have hvalue : c.val.toNat ≤ 127 := Nat.le_of_lt_succ hascii
      simp only [String.utf8EncodeChar, if_pos hvalue, Char.toNat]
    rw [hbyte, List.mem_singleton] at hb
    have h := hall ⟨c.toNat, hascii⟩
    simp only [Char.ofNat_toNat] at h
    exact hb ▸ h quote slash control
  · apply isPlain_of_le
    have hvalue : ¬ c.val.toNat ≤ 127 := by
      simp only [Char.toNat] at hascii
      omega
    have hlarge : ∀ n < 128, 0x80 ≤ (UInt8.ofNat (n + 128)).toNat := by
      intro n hn
      rw [UInt8.toNat_ofNat']
      omega
    simp only [String.utf8EncodeChar, if_neg hvalue] at hb
    split at hb
    · simp only [List.mem_cons, List.not_mem_nil, or_false] at hb
      rcases hb with rfl | rfl
      · exact hlarge (c.val.toNat / 64 % 32 + 64) (by omega)
      · exact hlarge _ (by omega)
    split at hb
    · simp only [List.mem_cons, List.not_mem_nil, or_false] at hb
      rcases hb with rfl | rfl | rfl
      · exact hlarge (c.val.toNat / 4096 % 16 + 96) (by omega)
      · exact hlarge _ (by omega)
      · exact hlarge _ (by omega)
    · simp only [List.mem_cons, List.not_mem_nil, or_false] at hb
      rcases hb with rfl | rfl | rfl | rfl
      · exact hlarge (c.val.toNat / 262144 % 8 + 112) (by omega)
      · exact hlarge _ (by omega)
      · exact hlarge _ (by omega)
      · exact hlarge _ (by omega)

/-- The escape of a control character stands for it. -/
theorem unitText_control {n : Nat} (h : n < 0x20) : ∃ units,
    Utf8.encode (controlEscape n) = byte '\\' :: byte 'u' :: units ∧
      UnitText units (Utf8.encode (Char.ofNat n).toString) := by
  have hall : ∀ k : Fin 0x20, Utf8.encode (controlEscape k) = byte '\\' :: byte 'u' ::
      (Utf8.encode (controlEscape k)).drop 2 ∧
        hexUnit? ((Utf8.encode (controlEscape k)).drop 2) = some k.val := by
    decide +kernel
  obtain ⟨htext, hunit⟩ := hall ⟨n, h⟩
  exact ⟨_, htext, .single hunit (Or.inl (by omega))⟩

/-- A character is printed so that it is read as itself. -/
theorem stringText_escapedChar (c : Char) {text content : Bytes} (rest : StringText text content) :
    StringText (Utf8.encode (escapedChar c) ++ text) (String.utf8EncodeChar c ++ content) := by
  have hchar : ∀ n, c.toNat = n → c = Char.ofNat n := by
    rintro _ rfl
    exact (Char.ofNat_toNat c).symm
  unfold escapedChar
  simp only [beq_iff_eq]
  split
  · next h =>
    subst h
    exact .short rfl rest
  split
  · next h =>
    subst h
    exact .short rfl rest
  split
  · next h =>
    rw [hchar _ h]
    exact .short rfl rest
  split
  · next h =>
    rw [hchar _ h]
    exact .short rfl rest
  split
  · next h =>
    rw [hchar _ h]
    exact .short rfl rest
  split
  · next h =>
    rw [hchar _ h]
    exact .short rfl rest
  split
  · next h =>
    rw [hchar _ h]
    exact .short rfl rest
  split
  · next h =>
    obtain ⟨units, htext, hunits⟩ := unitText_control h
    rw [Char.ofNat_toNat, Utf8.encode_char] at hunits
    rw [htext]
    exact .unit hunits rest
  · next hquote hslash _ _ _ _ _ hcontrol =>
    rw [Utf8.encode_char]
    exact StringText.plain_append (fun b hb => isPlain_of_mem hquote hslash hcontrol hb) rest

/-- A string is printed so that it is read as itself. -/
theorem spelledText_printString (text : String) : ∃ spelled,
    Utf8.encode (printString text) = byte '"' :: spelled ∧ SpelledText spelled text := by
  have hchars : ∀ chars : List Char,
      StringText (chars.flatMap (fun c => Utf8.encode (escapedChar c)) ++ [byte '"'])
        (chars.flatMap String.utf8EncodeChar) := by
    intro chars
    induction chars with
    | nil => exact .close
    | cons c rest ih =>
      rw [List.flatMap_cons, List.append_assoc, List.flatMap_cons]
      exact stringText_escapedChar c ih
  have hjoin : Utf8.encode (String.join (text.toList.map escapedChar)) =
      text.toList.flatMap fun c => Utf8.encode (escapedChar c) := by
    simp only [Utf8.encode_eq_flatMap, String.toList_join, List.flatMap_map, List.flatMap_assoc]
  refine ⟨_, ?_, _, hchars text.toList, ?_⟩
  · rw [printString, Utf8.encode_append, Utf8.encode_append, hjoin, List.append_assoc]
    rfl
  · rw [← Utf8.encode_eq_flatMap, Utf8.decode?_encode]

/-- A printed string is read as itself. -/
theorem string_of_printString {wanted text : String} {cursor last : Cursor}
    (hpasses : cursor.Passes (Utf8.encode (printString text)) last) :
    string wanted cursor = .ok text last := by
  obtain ⟨spelled, hprinted, hspelled⟩ := spelledText_printString text
  rw [hprinted] at hpasses
  exact string_eq_ok.mpr ⟨[], spelled, allBlank_nil, hspelled, hpasses⟩

theorem written_printString (text : String) : Written .value (Utf8.encode (printString text)) := by
  obtain ⟨spelled, hprinted, hspelled⟩ := spelledText_printString text
  rw [hprinted]
  exact .scalar (.string (.of_spelled hspelled))

/-- The digits of a number are printed. -/
theorem exists_numeral (n : Nat) : ∃ numeral : Numeral,
    numeral.digitBytes = Utf8.encode (toString n) ∧ numeral.magnitude = n ∧
      (numeral.first = 0 → n = 0) := by
  have hdigit : ∀ digit < 10, String.utf8EncodeChar (Nat.digitChar digit) =
      [Numeral.digitByte digit] := by
    decide
  induction n using Nat.strongRecOn with
  | ind n ih =>
    by_cases hsmall : n < 10
    · refine ⟨⟨false, n, [], hsmall, nofun, fun _ => rfl⟩, ?_, rfl, id⟩
      rw [Utf8.encode_eq_flatMap, Nat.toString_eq_ofList_toDigits, String.toList_ofList,
        Nat.toDigits_of_lt_base hsmall, List.flatMap_singleton, hdigit n hsmall]
      rfl
    · obtain ⟨numeral, hbytes, hmagnitude, hzero⟩ := ih (n / 10) (by omega)
      have hlast : n % 10 < 10 := Nat.mod_lt n (by decide)
      have hfirst : numeral.first ≠ 0 := by
        intro h
        have := hzero h
        omega
      have hrest : ∀ digit ∈ numeral.rest ++ [n % 10], digit < 10 := by
        rintro digit hmember
        rcases List.mem_append.mp hmember with h | h
        · exact numeral.rest_lt digit h
        · rwa [List.mem_singleton.mp h]
      refine ⟨⟨false, numeral.first, numeral.rest ++ [n % 10], numeral.first_lt, hrest,
        fun h => absurd h hfirst⟩, ?_, ?_, fun h => absurd h hfirst⟩
      · rw [Utf8.encode_eq_flatMap, Nat.toString_eq_ofList_toDigits, String.toList_ofList] at hbytes ⊢
        rw [Nat.toDigits_of_base_le (by decide) (by omega), List.flatMap_append, ← hbytes,
          List.flatMap_singleton, hdigit _ hlast]
        simp [Numeral.digitBytes]
      · rw [Numeral.magnitude, Numeral.magnitudeFrom, List.foldl_append]
        change numeral.magnitude * 10 + n % 10 = n
        omega

theorem allDigits_digitBytes {digits : List Nat} (h : ∀ digit ∈ digits, digit < 10) :
    AllDigits (digits.map Numeral.digitByte) := by
  intro b hb
  obtain ⟨digit, hdigit, rfl⟩ := List.mem_map.mp hb
  rw [Numeral.digit?_digitByte (h digit hdigit)]
  rfl

theorem filterMap_digitBytes {digits : List Nat} (h : ∀ digit ∈ digits, digit < 10) :
    (digits.map Numeral.digitByte).filterMap digit? = digits := by
  induction digits with
  | nil => rfl
  | cons digit digits ih =>
    obtain ⟨hdigit, hdigits⟩ := List.forall_mem_cons.mp h
    rw [List.map_cons, List.filterMap_cons_some (Numeral.digit?_digitByte hdigit), ih hdigits]

/-- Digits that fit into 64 bits are read as the whole number that they stand for. -/
theorem unsignedNumber_of_digitBytes {numeral : Numeral} (small : numeral.magnitude ≤ wordMax)
    (negative : Bool) {cursor last : Cursor} (hpasses : cursor.Passes numeral.digitBytes last)
    (ends : Numeral.Ends last.rest) :
    unsignedNumber negative cursor = wholeNumber negative numeral.magnitude 0 last := by
  obtain ⟨hahead, hlater⟩ := Cursor.passes_cons.mp hpasses
  have hdigits : digits cursor.advance = .ok numeral.rest last := digits_eq_ok.mpr
    ⟨_, allDigits_digitBytes numeral.rest_lt, hlater, noDigit_of_ends ends,
      (filterMap_digitBytes numeral.rest_lt).symm⟩
  have hzero : (numeral.first == 0 && (cursor.advance.rest.head?.bind digit?).isSome) = false := by
    cases hfirst : numeral.first == 0 with
    | false => rfl
    | true =>
      have hrest := numeral.rest_eq_nil (eq_of_beq hfirst)
      rw [hrest] at hlater
      obtain rfl := Cursor.passes_nil.mp hlater
      cases hnext : cursor.advance.rest.head? with
      | none => rfl
      | some b => simp [(ends b hnext).1]
  have hexponent : exponentAhead last = .ok false last := by
    refine bind_eq_ok.mpr ⟨_, last, rfl, ?_⟩
    rw [ends.head?_ne (by simp), ends.head?_ne (by simp)]
    rfl
  have hfirst : numeral.first ≤ wordMax :=
    Nat.le_trans (Numeral.le_magnitudeFrom numeral.first numeral.rest) small
  have hnext : next cursor = .ok (some (Numeral.digitByte numeral.first)) cursor.advance :=
    next_eq_ok.mpr ⟨hahead.symm, rfl⟩
  rw [unsignedNumber, bind_of_ok hnext]
  simp only [Numeral.digit?_digitByte numeral.first_lt]
  rw [peek_bind, hzero, if_neg Bool.false_ne_true, bind_of_ok hdigits,
    peek_bind, ends.head?_ne (by simp), if_neg Bool.false_ne_true, bind_of_ok hexponent,
    if_neg Bool.false_ne_true]
  rcases Numeral.addWhole_spec hfirst numeral.rest_lt with ⟨hall, hvalue⟩ | ⟨-, -, hlarge⟩
  · rw [hall, hvalue]
    rfl
  · exact absurd small (Nat.not_le.mpr hlarge)

/-- A whole number that fits into 64 bits is read from its digits. -/
theorem number_of_digitBytes {numeral : Numeral} (small : numeral.magnitude ≤ wordMax)
    {cursor last : Cursor} (hpasses : cursor.Passes numeral.digitBytes last)
    (ends : Numeral.Ends last.rest) :
    number cursor = .ok (.whole numeral.magnitude) last := by
  have hsign : (cursor.rest.head? == some (byte '-')) = false := by
    have hall : ∀ digit < 10, (some (Numeral.digitByte digit) == some (byte '-')) = false := by
      decide
    rw [(Cursor.passes_cons.mp hpasses).1]
    exact hall numeral.first numeral.first_lt
  rw [number, peek_bind, hsign, if_neg Bool.false_ne_true,
    unsignedNumber_of_digitBytes small false hpasses ends]
  rfl

/-- A minus sign in front makes the number negative, as long as it fits into 64 bits. -/
theorem number_of_minus {numeral : Numeral} (positive : 0 < numeral.magnitude)
    (small : numeral.magnitude ≤ UInt64.size / 2) {cursor last : Cursor}
    (hpasses : cursor.Passes (byte '-' :: numeral.digitBytes) last)
    (ends : Numeral.Ends last.rest) :
    number cursor = .ok (.whole (-numeral.magnitude)) last := by
  obtain ⟨hahead, hlater⟩ := Cursor.passes_cons.mp hpasses
  have hsize : UInt64.size / 2 ≤ wordMax := by decide
  have hfits : ¬ (decide (numeral.magnitude = 0) || decide (UInt64.size / 2 < numeral.magnitude)) =
      true := by
    simp only [Bool.or_eq_true, decide_eq_true_eq]
    omega
  rw [number, peek_bind, hahead, if_pos (beq_self_eq_true _), skip_bind,
    unsignedNumber_of_digitBytes (Nat.le_trans small hsize) true hlater ends, wholeNumber, if_pos rfl,
    if_neg (by decide), if_neg hfits]
  rfl

theorem print_whole (n : Int) : (Value.number (.whole n)).print = toString n := by
  rw [Value.print, Number.print]

/-- A printed whole number is read as itself where it is not too large. -/
theorem unsigned_of_whole {max n : Nat} (small : n ≤ max) (word : max ≤ wordMax) {wanted : String}
    {cursor last : Cursor}
    (hpasses : cursor.Passes (Utf8.encode (Value.number (.whole n)).print) last)
    (ends : Numeral.Ends last.rest) : unsigned max wanted cursor = .ok n last := by
  obtain ⟨numeral, hbytes, hmagnitude, -⟩ := exists_numeral n
  have hprint : (Value.number (.whole n)).print = toString n := print_whole n
  rw [hprint, ← hbytes] at hpasses
  obtain ⟨hahead, -⟩ := Cursor.passes_cons.mp hpasses
  obtain ⟨hblank, -, -, -, hbegins⟩ :=
    Numeral.starts_number (Or.inr ⟨numeral.first, numeral.first_lt, rfl⟩)
  have hnumber := number_of_digitBytes (by omega) hpasses ends
  rw [hmagnitude] at hnumber
  refine bind_eq_ok.mpr ⟨_, cursor, peekPastBlanks_of_head? hahead hblank, ?_⟩
  simp only [hbegins, if_true]
  refine bind_eq_ok.mpr ⟨_, last, hnumber, ?_⟩
  change (if n ≤ max then pure n else _ : Reader Nat) last = _
  rw [if_pos small]
  rfl

theorem unsignedText_digitBytes (numeral : Numeral) : UnsignedText numeral.digitBytes := by
  have hdigits : ∀ digit ∈ numeral.first :: numeral.rest, digit < 10 :=
    List.forall_mem_cons.mpr ⟨numeral.first_lt, numeral.rest_lt⟩
  refine ⟨_, [], [], ?_, Or.inl rfl, Or.inl rfl, (List.append_nil _).symm⟩
  refine ⟨_, _, rfl, allDigits_digitBytes hdigits, fun hzero => ?_⟩
  have hfirst := (eq_zero_iff_of_digit? (Numeral.digit?_digitByte numeral.first_lt)).mpr hzero
  rw [numeral.rest_eq_nil hfirst, List.map_nil]

/-- A whole number is printed as its digits, behind a minus sign if it is negative. -/
theorem print_whole_cases (n : Int) : ∃ numeral : Numeral,
    (n = numeral.magnitude ∧
      Utf8.encode (Value.number (.whole n)).print = numeral.digitBytes) ∨
    (n = -numeral.magnitude ∧ 0 < numeral.magnitude ∧
      Utf8.encode (Value.number (.whole n)).print = byte '-' :: numeral.digitBytes) := by
  rw [print_whole]
  cases n with
  | ofNat n =>
    obtain ⟨numeral, hbytes, rfl, -⟩ := exists_numeral n
    exact ⟨numeral, Or.inl ⟨rfl, hbytes.symm⟩⟩
  | negSucc n =>
    obtain ⟨numeral, hbytes, hmagnitude, -⟩ := exists_numeral (n + 1)
    refine ⟨numeral, Or.inr ⟨by omega, by omega, ?_⟩⟩
    have hprint : toString (Int.negSucc n) = "-" ++ toString (n + 1) := rfl
    rw [hprint, Utf8.encode_append, ← hbytes]
    rfl

theorem written_whole (n : Int) :
    Written .value (Utf8.encode (Value.number (.whole n)).print) := by
  refine .scalar (.number ?_)
  obtain ⟨numeral, ⟨-, hbytes⟩ | ⟨-, -, hbytes⟩⟩ := print_whole_cases n
  · rw [hbytes]
    exact Or.inl (unsignedText_digitBytes numeral)
  · rw [hbytes]
    exact Or.inr ⟨_, unsignedText_digitBytes numeral, rfl⟩

/-- A printed whole number is read as itself where it fits into 64 bits. -/
theorem number_of_whole {n : Int} (low : -(UInt64.size / 2) ≤ n) (high : n ≤ wordMax)
    {cursor last : Cursor}
    (hpasses : cursor.Passes (Utf8.encode (Value.number (.whole n)).print) last)
    (ends : Numeral.Ends last.rest) : number cursor = .ok (.whole n) last := by
  obtain ⟨numeral, ⟨hn, hbytes⟩ | ⟨hn, hpositive, hbytes⟩⟩ := print_whole_cases n
  · rw [hbytes] at hpasses
    rw [hn]
    exact number_of_digitBytes (by omega) hpasses ends
  · rw [hbytes] at hpasses
    rw [hn]
    exact number_of_minus hpositive (by omega) hpasses ends

/-- A member as it is printed. -/
def printMember (entry : String × Value) : String := printString entry.1 ++ ":" ++ entry.2.print

theorem memberText_printMember {entry : String × Value}
    (hvalue : Written .value (Utf8.encode entry.2.print)) :
    MemberText (Utf8.encode (printMember entry)) (entry.1, Utf8.encode entry.2.print) := by
  obtain ⟨spelled, hprinted, hspelled⟩ := spelledText_printString entry.1
  have hmember := MemberText.intro allBlank_nil hspelled allBlank_nil hvalue allBlank_nil
  have hcolon : Utf8.encode ":" = [byte ':'] := rfl
  rw [printMember, Utf8.encode_append, Utf8.encode_append, hprinted, hcolon]
  simpa only [List.nil_append, List.append_nil, List.cons_append, List.append_assoc] using hmember

/-- Members are printed one after the other, with commas between them. -/
theorem printMembers_eq_intercalate (members : Members) :
    printMembers members = ",".intercalate (members.map printMember) := by
  induction members with
  | nil => rfl
  | cons entry rest ih =>
    cases rest with
    | nil => rw [List.map_singleton, String.intercalate_singleton, printMembers, printMember]
    | cons next rest =>
      rw [List.map_cons, List.map_cons, String.intercalate_cons_cons, ← List.map_cons, ← ih,
        printMembers, printMember]
      exact nofun

theorem encode_intercalate (texts : List String) :
    Utf8.encode (",".intercalate texts) = [byte ','].intercalate (texts.map Utf8.encode) := by
  induction texts with
  | nil => rfl
  | cons text rest ih =>
    cases rest with
    | nil => simp [List.intercalate]
    | cons next rest =>
      have hcomma : Utf8.encode "," = [byte ','] := rfl
      rw [String.intercalate_cons_cons, Utf8.encode_append, Utf8.encode_append, ih, hcomma]
      simp [List.intercalate]

/-- The text of some members, in braces and with commas between them. -/
def braced (members : List String) : String := "\x7b" ++ ",".intercalate members ++ "\x7d"

theorem encode_braced (members : List String) :
    Utf8.encode (braced members) =
      byte '{' :: ([byte ','].intercalate (members.map Utf8.encode) ++ [byte '\x7d']) := by
  have hopen : Utf8.encode "\x7b" = [byte '{'] := rfl
  have hclose : Utf8.encode "\x7d" = [byte '\x7d'] := rfl
  rw [braced, Utf8.encode_append, Utf8.encode_append, encode_intercalate, hopen, hclose]
  rfl

theorem print_object (members : Members) :
    (Value.object members).print = braced (members.map printMember) := by
  rw [Value.print, printMembers_eq_intercalate, braced]

/-- Members with the texts of their values. -/
def printedMembers (members : Members) : List (String × Bytes) :=
  members.map fun entry => (entry.1, Utf8.encode entry.2.print)

theorem memberTexts_of_members {members : Members}
    (h : ∀ entry ∈ members, Written .value (Utf8.encode entry.2.print)) :
    List.Forall₂ MemberText ((members.map printMember).map Utf8.encode)
      (printedMembers members) := by
  induction members with
  | nil => exact .nil
  | cons entry rest ih =>
    obtain ⟨hentry, hrest⟩ := List.forall_mem_cons.mp h
    exact .cons (memberText_printMember hentry) (ih hrest)

/-- A printed object has the members that were printed. -/
theorem exists_contents_print {members : Members}
    (h : ∀ entry ∈ members, Written .value (Utf8.encode entry.2.print)) : ∃ content,
    Utf8.encode (Value.object members).print = byte '{' :: (content ++ [byte '\x7d']) ∧
      Contents true content (printedMembers members) := by
  refine ⟨_, ?_, contents_of_members (memberTexts_of_members h)⟩
  rw [print_object, encode_braced]

/-- The text of an object from those of its members. -/
theorem objectText_braced {texts : List String} {members : List (String × Bytes)}
    (h : List.Forall₂ MemberText (texts.map Utf8.encode) members) :
    ObjectText (Utf8.encode (braced texts)) members := by
  refine ⟨[], _, [], allBlank_nil, contents_of_members h, allBlank_nil, ?_⟩
  rw [encode_braced]
  rfl

end Json.Reader

end RelyingParty
