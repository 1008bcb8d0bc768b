import Mathlib.Data.List.Forall2
import RelyingParty.Proofs.Json.Printed

/-!
# Printed values are read as themselves

A value is printed so that it is read as itself, as long as no more containers stand inside each other
than a reader allows and its numbers are read back. Whole numbers that fit into 64 bits are; of the
others a reader may get the last digits wrong.
-/

namespace RelyingParty.Json

open RelyingParty.Text

/-- A number is read as itself where it is printed. -/
structure Number.ReadsBack (n : Number) : Prop where
  /-- It is printed as a number. -/
  written : Reader.Written .value (Utf8.encode n.print)
  /-- It is read from what is printed. -/
  read : ∀ {cursor last : Cursor}, cursor.Passes (Utf8.encode n.print) last →
    Numeral.Ends last.rest → Reader.number cursor = .ok n last

/-- A value has at most so many containers inside each other, and its numbers are read back. -/
inductive Value.Readable : Nat → Value → Prop where
  /-- The literal `null`. -/
  | null {depth : Nat} : Readable depth .null
  /-- A truth value. -/
  | bool {depth : Nat} {b : Bool} : Readable depth (.bool b)
  /-- A number that is read back. -/
  | number {depth : Nat} {n : Number} (back : n.ReadsBack) : Readable depth (.number n)
  /-- A string. -/
  | string {depth : Nat} {text : String} : Readable depth (.string text)
  /-- An array, with one container less in every item. -/
  | array {depth : Nat} {items : List Value} (inside : ∀ item ∈ items, Readable depth item) :
    Readable (depth + 1) (.array items)
  /-- An object, with one container less in every member. -/
  | object {depth : Nat} {members : Members} (inside : ∀ entry ∈ members, Readable depth entry.2) :
    Readable (depth + 1) (.object members)

namespace Reader

/-- Whole numbers that fit into 64 bits are read back. -/
theorem readsBack_whole {n : Int} (low : -(UInt64.size / 2) ≤ n) (high : n ≤ wordMax) :
    (Number.whole n).ReadsBack := by
  have hprint : (Value.number (.whole n)).print = (Number.whole n).print := by rw [Value.print]
  exact ⟨hprint ▸ written_whole n,
    fun hpasses ends => number_of_whole low high (hprint ▸ hpasses) ends⟩

/-- A reader gets a value from a text. -/
def Gets (item : Reader Value) (text : Bytes) (value : Value) : Prop :=
  ∀ {cursor last : Cursor}, cursor.Passes text last → Numeral.Ends last.rest →
    item cursor = .ok value last

/-- An item lies ahead where one can be read. -/
theorem itemAhead_of_valueWith {inner : Option (Reader Value)} {cursor last : Cursor}
    {value : Value} (h : valueWith inner cursor = .ok value last) : ∃ b reached,
      peekPastBlanks cursor = .ok (some b) reached ∧ (b == byte ']') = false ∧
        valueWith inner reached = .ok value last := by
  obtain ⟨b, reached, hahead, hbegun⟩ := valueWith_iff.mp h
  refine ⟨b, reached, hahead, ?_, ?_⟩
  · generalize hb : b = first at hbegun ⊢
    cases hbegun with
    | null | yes | no | string | array | object => decide
    | number hsign =>
      refine beq_eq_false_iff_ne.mpr ?_
      rintro rfl
      exact absurd hsign (by decide)
  · exact valueWith_iff.mpr ⟨b, reached, peekPastBlanks_peekPastBlanks hahead, hbegun⟩

theorem itemAhead_first {inner : Option (Reader Value)} {cursor last : Cursor} {value : Value}
    (h : valueWith inner cursor = .ok value last) : ∃ reached,
      itemAhead true cursor = .ok true reached ∧ valueWith inner reached = .ok value last := by
  obtain ⟨b, reached, hahead, hb, hvalue⟩ := itemAhead_of_valueWith h
  refine ⟨reached, bind_eq_ok.mpr ⟨some b, reached, hahead, ?_⟩, hvalue⟩
  simp only [hb, Bool.false_eq_true, if_false, if_true]
  rfl

theorem itemAhead_next {inner : Option (Reader Value)} {cursor last : Cursor} {value : Value}
    (comma : cursor.rest.head? = some (byte ','))
    (h : valueWith inner cursor.advance = .ok value last) : ∃ reached,
      itemAhead false cursor = .ok true reached ∧ valueWith inner reached = .ok value last := by
  obtain ⟨b, reached, hahead, hb, hvalue⟩ := itemAhead_of_valueWith h
  refine ⟨reached,
    bind_eq_ok.mpr ⟨_, cursor, peekPastBlanks_of_head? comma (by decide), ?_⟩, hvalue⟩
  refine (skip_bind _ _).trans (bind_eq_ok.mpr ⟨some b, reached, hahead, ?_⟩)
  simp only [hb, Bool.false_eq_true, if_false]
  rfl

theorem itemAhead_end {first : Bool} {cursor : Cursor} (h : cursor.rest.head? = some (byte ']')) :
    itemAhead first cursor = .ok false cursor :=
  bind_eq_ok.mpr ⟨_, cursor, peekPastBlanks_of_head? h (by decide), rfl⟩

theorem ends_of_head? {text : Bytes} {b : UInt8} (h : text.head? = some b) (hb : Stops b) :
    Numeral.Ends text := by
  intro c hc
  obtain rfl := Option.some.inj (h.symm.trans hc)
  exact hb

/-- What follows an item does not continue a number. -/
theorem ends_of_items {texts : List Bytes} {cursor last : Cursor}
    (hpasses : cursor.Passes (texts.flatMap (byte ',' :: ·)) last)
    (hend : last.rest.head? = some (byte ']')) : Numeral.Ends cursor.rest := by
  cases texts with
  | nil =>
    obtain rfl := Cursor.passes_nil.mp hpasses
    exact ends_of_head? hend (by decide)
  | cons text texts => exact ends_of_head? (Cursor.passes_cons.mp hpasses).1 (by decide)

/-- Items with commas in front of them are read one after the other. -/
theorem itemsFrom_behind {inner : Option (Reader Value)} {texts : List Bytes} {values : List Value}
    (h : List.Forall₂ (Gets (valueWith inner)) texts values) {bound : Nat} {seen : List Value}
    (later : seen.isEmpty = false) {cursor last : Cursor}
    (hpasses : cursor.Passes (texts.flatMap (byte ',' :: ·)) last)
    (hend : last.rest.head? = some (byte ']')) (enough : texts.length < bound) :
    itemsFrom (valueWith inner) bound seen cursor = .ok (seen.reverse ++ values) last := by
  induction h generalizing bound seen cursor with
  | nil =>
    obtain ⟨bound, rfl⟩ := Nat.exists_eq_succ_of_ne_zero (Nat.ne_zero_of_lt enough)
    obtain rfl := Cursor.passes_nil.mp hpasses
    exact itemsFrom_succ_eq_ok.mpr (Or.inl ⟨itemAhead_end hend, (List.append_nil _).symm⟩)
  | @cons text value texts values hgets _ ih =>
    obtain ⟨bound, rfl⟩ := Nat.exists_eq_succ_of_ne_zero (Nat.ne_zero_of_lt enough)
    obtain ⟨hcomma, hitems⟩ := Cursor.passes_cons.mp hpasses
    obtain ⟨behind, htext, hrest⟩ := Cursor.passes_append.mp hitems
    obtain ⟨reached, hahead, hvalue⟩ :=
      itemAhead_next hcomma (hgets htext (ends_of_items hrest hend))
    have hmore : itemsFrom (valueWith inner) bound (value :: seen) behind =
        .ok ((value :: seen).reverse ++ values) last :=
      ih rfl hrest (Nat.lt_of_succ_lt_succ enough)
    rw [List.reverse_cons, List.append_assoc] at hmore
    exact itemsFrom_succ_eq_ok.mpr
      (Or.inr ⟨reached, value, behind, later ▸ hahead, hvalue, hmore⟩)

theorem length_le_flatMap (texts : List Bytes) :
    texts.length ≤ (texts.flatMap (byte ',' :: ·)).length := by
  induction texts with
  | nil => exact Nat.le_refl _
  | cons text texts ih =>
    rw [List.flatMap_cons, List.length_append, List.length_cons, List.length_cons]
    omega

/-- Items with commas between them are read up to the end of the array. -/
theorem items_of_texts {inner : Option (Reader Value)} {texts : List Bytes} {values : List Value}
    (h : List.Forall₂ (Gets (valueWith inner)) texts values) {cursor last : Cursor}
    (hpasses : cursor.Passes ([byte ','].intercalate texts) last)
    (hend : last.rest.head? = some (byte ']')) :
    items (valueWith inner) cursor = .ok values last := by
  refine bind_eq_ok.mpr ⟨cursor.rest.length, cursor, rfl, ?_⟩
  cases h with
  | nil =>
    obtain rfl := Cursor.passes_nil.mp hpasses
    exact itemsFrom_succ_eq_ok.mpr (Or.inl ⟨itemAhead_end hend, rfl⟩)
  | @cons text value texts values hgets hrest =>
    rw [intercalate_cons] at hpasses
    obtain ⟨behind, htext, hlater⟩ := Cursor.passes_append.mp hpasses
    obtain ⟨reached, hahead, hvalue⟩ := itemAhead_first (hgets htext (ends_of_items hlater hend))
    have henough : texts.length < cursor.rest.length := by
      have hlength := hpasses.length
      have htexts := length_le_flatMap texts
      have hbracket : 0 < last.rest.length := by
        obtain ⟨rest, hrest⟩ := List.head?_eq_some_iff.mp hend
        rw [hrest]
        exact Nat.succ_pos _
      rw [List.length_append] at hlength
      omega
    exact itemsFrom_succ_eq_ok.mpr (Or.inr
      ⟨reached, value, behind, hahead, hvalue, itemsFrom_behind hrest rfl hlater hend henough⟩)

/-- Items are printed one after the other, with commas between them. -/
theorem printItems_eq_intercalate (items : List Value) :
    printItems items = ",".intercalate (items.map Value.print) := by
  induction items with
  | nil => rfl
  | cons item rest ih =>
    cases rest with
    | nil => rw [List.map_singleton, String.intercalate_singleton, printItems]
    | cons next rest =>
      rw [List.map_cons, List.map_cons, String.intercalate_cons_cons, ← List.map_cons, ← ih,
        printItems]
      exact nofun

theorem encode_array (items : List Value) : Utf8.encode (Value.array items).print =
    byte '[' :: ([byte ','].intercalate (items.map fun item => Utf8.encode item.print) ++
      [byte ']']) := by
  have hopen : Utf8.encode "[" = [byte '['] := rfl
  have hclose : Utf8.encode "]" = [byte ']'] := rfl
  rw [Value.print, printItems_eq_intercalate, Utf8.encode_append, Utf8.encode_append,
    encode_intercalate, hopen, hclose, List.map_map]
  rfl

/-- Items with commas between them and their end are what follows an opening bracket. -/
theorem written_items {texts : List Bytes} (h : ∀ text ∈ texts, Written .value text) :
    Written (.opened .list) ([byte ','].intercalate texts ++ [byte ']']) := by
  have hmore : ∀ texts : List Bytes, (∀ text ∈ texts, Written .value text) →
      Written (.more .list) (texts.flatMap (byte ',' :: ·) ++ [byte ']']) := by
    intro texts htexts
    induction texts with
    | nil => exact .last .list
    | cons text texts ih =>
      obtain ⟨htext, hrest⟩ := List.forall_mem_cons.mp htexts
      rw [List.flatMap_cons, List.append_assoc]
      exact .next htext (ih hrest)
  cases texts with
  | nil => exact .empty .list
  | cons text texts =>
    obtain ⟨htext, hrest⟩ := List.forall_mem_cons.mp h
    rw [intercalate_cons, List.append_assoc]
    exact .first htext (hmore texts hrest)

/-- How a member of an object is read as a value. -/
def GetsMember (item : Reader Value) (name : String) (text : Bytes) (seen next : Members) : Prop :=
  ∃ value, Gets item text value ∧ next = (name, value) :: seen

theorem performs_member (item : Reader Value) : Performs (member item) (GetsMember item) where
  complete := by
    rintro name seen _ gap text cursor last hgap - ⟨value, hvalue, rfl⟩ hpasses ends
    rw [List.append_cons] at hpasses
    obtain ⟨reached, hcolon, htext⟩ := Cursor.passes_append.mp hpasses
    exact bind_eq_ok.mpr ⟨(), reached, colon_eq_ok.mpr ⟨gap, hgap, hcolon⟩,
      bind_eq_ok.mpr ⟨value, last, hvalue htext ends, rfl⟩⟩

theorem leads_members {item : Reader Value} {members : Members} {seen : Members}
    (h : ∀ entry ∈ members, Gets item (Utf8.encode entry.2.print) entry.2) :
    Leads (GetsMember item) (printedMembers members) seen (members.reverse ++ seen) := by
  induction members generalizing seen with
  | nil => exact .nil seen
  | cons entry rest ih =>
    obtain ⟨hentry, hrest⟩ := List.forall_mem_cons.mp h
    rw [List.reverse_cons, List.append_assoc]
    exact .cons ⟨entry.2, hentry, rfl⟩ (ih hrest)

theorem exists_valueWith (depth : Nat) :
    ∃ inner, Reader.value depth = valueWith inner := by
  cases depth with
  | zero => exact ⟨none, rfl⟩
  | succ depth => exact ⟨some (Reader.value depth), rfl⟩

/-- A word is printed as it is and stands for its value. -/
theorem printed_word {inner : Option (Reader Value)} {c : Char} {letters : List Char}
    {value : Value} (word : c :: letters ∈ words)
    (print : Utf8.encode value.print = (c :: letters).map byte)
    (begun : ∀ {cursor last}, literal letters cursor.advance = .ok () last →
      Begun inner cursor last (byte c) value) :
    Written .value (Utf8.encode value.print) ∧
      Gets (valueWith inner) (Utf8.encode value.print) value := by
  have hblank : isBlankByte (byte c) = false := by
    simp only [words, List.mem_cons, List.cons.injEq, List.not_mem_nil, or_false] at word
    rcases word with ⟨rfl, -⟩ | ⟨rfl, -⟩ | ⟨rfl, -⟩ <;> rfl
  rw [print]
  refine ⟨.scalar (.word word), fun {cursor last} hpasses _ => ?_⟩
  obtain ⟨hahead, hletters⟩ := Cursor.passes_cons.mp hpasses
  exact valueWith_iff.mpr ⟨_, cursor, peekPastBlanks_of_head? hahead hblank,
    begun (literal_eq_ok.mpr hletters)⟩

/-- A number begins with a minus sign or a digit, and not with a blank. -/
theorem begins_of_number {cursor last : Cursor} {n : Number} (h : number cursor = .ok n last) :
    ∃ b, cursor.rest.head? = some b ∧ isBlankByte b = false ∧
      (b == byte '-' || (digit? b).isSome) = true := by
  have hblank : ∀ b, (b == byte '-' || (digit? b).isSome) = true → isBlankByte b = false := by
    intro b hsign
    refine Bool.eq_false_iff.mpr fun hblank => ?_
    rw [(stops_of_blank hblank).1, Option.isSome_none, Bool.or_false, beq_iff_eq] at hsign
    exact absurd (hsign ▸ hblank) (by decide)
  have hbegins : ∃ b, cursor.rest.head? = some b ∧ (b == byte '-' || (digit? b).isSome) = true := by
    rw [number, peek_bind] at h
    split at h
    · next hminus => exact ⟨byte '-', eq_of_beq hminus, rfl⟩
    · obtain ⟨b, hahead, hrest⟩ := (next_bind_eq_ok (by rintro _ _ _ ⟨⟩)).mp h
      simp only at hrest
      cases hdigit : digit? b with
      | none =>
        rw [hdigit] at hrest
        cases hrest
      | some digit => exact ⟨b, hahead, by rw [hdigit, Option.isSome_some, Bool.or_true]⟩
  obtain ⟨b, hahead, hsign⟩ := hbegins
  exact ⟨b, hahead, hblank b hsign, hsign⟩

theorem gets_number {inner : Option (Reader Value)} {n : Number} (h : n.ReadsBack) :
    Gets (valueWith inner) (Utf8.encode n.print) (.number n) := by
  intro cursor last hpasses ends
  have hread := h.read hpasses ends
  obtain ⟨b, hahead, hblank, hsign⟩ := begins_of_number hread
  exact valueWith_iff.mpr
    ⟨b, cursor, peekPastBlanks_of_head? hahead hblank, .number hsign hread⟩

theorem gets_string {inner : Option (Reader Value)} (text : String) :
    Gets (valueWith inner) (Utf8.encode (printString text)) (.string text) := by
  intro cursor last hpasses _
  obtain ⟨spelled, hprinted, hspelled⟩ := spelledText_printString text
  rw [hprinted] at hpasses
  obtain ⟨hahead, hlater⟩ := Cursor.passes_cons.mp hpasses
  exact valueWith_iff.mpr ⟨_, cursor, peekPastBlanks_of_head? hahead (by decide),
    .string (stringContent_eq_ok.mpr ⟨spelled, hspelled, hlater⟩)⟩

/-- An array of items that can be read. -/
theorem gets_array {inner : Option (Reader Value)} {items : List Value}
    (h : ∀ item ∈ items, Gets (valueWith inner) (Utf8.encode item.print) item) :
    Gets (valueWith (some (valueWith inner))) (Utf8.encode (Value.array items).print)
      (.array items) := by
  intro cursor last hpasses _
  rw [encode_array] at hpasses
  obtain ⟨hahead, hinner⟩ := Cursor.passes_cons.mp hpasses
  obtain ⟨middle, hitems, hclose⟩ := Cursor.passes_append.mp hinner
  obtain ⟨hend, rfl⟩ := Cursor.passes_singleton.mp hclose
  have hgets : List.Forall₂ (Gets (valueWith inner)) (items.map fun item => Utf8.encode item.print)
      items := List.forall₂_map_left_iff.mpr (List.forall₂_same.mpr h)
  refine valueWith_iff.mpr ⟨_, cursor, peekPastBlanks_of_head? hahead (by decide),
    .array rfl (items_of_texts hgets hitems hend) ?_⟩
  exact bind_of_ok (peekPastBlanks_of_head? hend (by decide)) _

/-- An object of members that can be read. -/
theorem gets_object {inner : Option (Reader Value)} {members : Members}
    (written : ∀ entry ∈ members, Written .value (Utf8.encode entry.2.print))
    (h : ∀ entry ∈ members, Gets (valueWith inner) (Utf8.encode entry.2.print) entry.2) :
    Gets (valueWith (some (valueWith inner))) (Utf8.encode (Value.object members).print)
      (.object members) := by
  intro cursor last hpasses _
  obtain ⟨content, hprint, hcontent⟩ := exists_contents_print written
  rw [hprint] at hpasses
  obtain ⟨hahead, hinner⟩ := Cursor.passes_cons.mp hpasses
  obtain ⟨middle, htext, hclose⟩ := Cursor.passes_append.mp hinner
  obtain ⟨hend, rfl⟩ := Cursor.passes_singleton.mp hclose
  have henough : content.length < cursor.advance.rest.length + 1 := by
    rw [htext.length]
    omega
  have hleads : Leads (GetsMember (valueWith inner)) (printedMembers members) [] members.reverse :=
    List.append_nil members.reverse ▸ leads_members h
  have hmembers := membersFrom_of_contents (performs_member (valueWith inner)) hcontent hleads htext
    hend henough
  have hbegun : Begun (some (valueWith inner)) cursor middle.advance (byte '{')
      (.object members.reverse.reverse) :=
    .object rfl (bind_eq_ok.mpr ⟨_, cursor.advance, rfl, hmembers⟩) (closeObject_of_head? hend)
  rw [List.reverse_reverse] at hbegun
  exact valueWith_iff.mpr ⟨_, cursor, peekPastBlanks_of_head? hahead (by decide), hbegun⟩

/-- A readable value is printed as a value and read as itself. -/
theorem printed_of_readable {depth : Nat} {value : Value} (h : value.Readable depth) :
    Written .value (Utf8.encode value.print) ∧
      Gets (Reader.value depth) (Utf8.encode value.print) value := by
  induction h with
  | @null depth =>
    obtain ⟨inner, hinner⟩ := exists_valueWith depth
    have hprint : Utf8.encode Value.null.print = ['n', 'u', 'l', 'l'].map byte := by
      rw [Value.print]
      rfl
    rw [hinner]
    exact printed_word (by decide) hprint .null
  | @bool depth b =>
    obtain ⟨inner, hinner⟩ := exists_valueWith depth
    rw [hinner]
    cases b with
    | true =>
      have hprint : Utf8.encode (Value.bool true).print = ['t', 'r', 'u', 'e'].map byte := by
        rw [Value.print]
        rfl
      exact printed_word (by decide) hprint .yes
    | false =>
      have hprint : Utf8.encode (Value.bool false).print = ['f', 'a', 'l', 's', 'e'].map byte := by
        rw [Value.print]
        rfl
      exact printed_word (by decide) hprint .no
  | @number depth n hback =>
    obtain ⟨inner, hinner⟩ := exists_valueWith depth
    rw [hinner, Value.print]
    exact ⟨hback.written, gets_number hback⟩
  | @string depth text =>
    obtain ⟨inner, hinner⟩ := exists_valueWith depth
    rw [hinner, Value.print]
    exact ⟨written_printString text, gets_string text⟩
  | @array depth items _ ih =>
    obtain ⟨inner, hinner⟩ := exists_valueWith depth
    rw [hinner] at ih
    constructor
    · rw [encode_array]
      refine .container .list (written_items fun text htext => ?_)
      obtain ⟨item, hitem, rfl⟩ := List.mem_map.mp htext
      exact (ih item hitem).1
    · rw [Reader.value, hinner]
      exact gets_array fun item hitem => (ih item hitem).2
  | @object depth members _ ih =>
    obtain ⟨inner, hinner⟩ := exists_valueWith depth
    rw [hinner] at ih
    constructor
    · obtain ⟨content, hprint, hcontent⟩ :=
        exists_contents_print fun entry hentry => (ih entry hentry).1
      rw [hprint]
      exact hcontent.written_value
    · rw [Reader.value, hinner]
      exact gets_object (fun entry hentry => (ih entry hentry).1) fun entry hentry =>
        (ih entry hentry).2

end Reader

/-- A printed value is read as itself. -/
theorem readValue_print {value : Value} (h : value.Readable Reader.maxDepth) :
    readValue (Utf8.encode value.print) = .ok value := by
  obtain ⟨last, hlast, hpasses⟩ := Cursor.exists_passes (Utf8.encode value.print) [] ⟨1, 0⟩
  rw [List.append_nil] at hpasses
  refine readWith_eq_ok_iff.mpr ⟨last, (Reader.printed_of_readable h).2 hpasses ?_, ?_⟩
  · rw [hlast]
    nofun
  · rw [hlast]
    exact Reader.allBlank_nil

end RelyingParty.Json
