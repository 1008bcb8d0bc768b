import RelyingParty.Json.Decode

/-!
# Reading one document in several ways

A document that is read as a value may also be read as something else. Where it holds a string, a
reader of strings gets the same string. Two readers of the members of an object agree when they
agree member by member.
-/

namespace RelyingParty.Json

open RelyingParty.Text

namespace Reader

variable {α β τ : Type}

/-- A sequence of two readers succeeds exactly when each of them does. -/
theorem bind_eq_ok {read : Reader α} {next : α → Reader β} {cursor last : Cursor} {value : β} :
    (read >>= next) cursor = .ok value last ↔
      ∃ found reached, read cursor = .ok found reached ∧ next found reached = .ok value last := by
  simp only [bind, EStateM.bind]
  cases read cursor with
  | ok found reached => exact ⟨fun h => ⟨found, reached, rfl, h⟩, fun ⟨_, _, rfl, h⟩ => h⟩
  | error fault reached => simp

theorem pure_eq_ok {found value : α} {cursor last : Cursor} :
    (pure found : Reader α) cursor = .ok value last ↔ found = value ∧ cursor = last := by
  simp [pure, EStateM.pure]

theorem placed_eq_ok {read : Reader α} {cursor last : Cursor} {value : α} :
    placed read cursor = .ok value last ↔ read cursor = .ok value last := by
  unfold placed
  split <;> simp_all

theorem enclosed_eq_ok {content : Reader α} {close : Reader Unit} {cursor last : Cursor}
    {value : α} :
    enclosed content close cursor = .ok value last ↔
      ∃ reached, content cursor = .ok value reached ∧ close reached = .ok () last := by
  constructor
  · intro h
    unfold enclosed at h
    split at h
    · next found reached hcontent =>
      split at h
      · next hclose =>
        cases h
        exact ⟨reached, hcontent, hclose⟩
      · cases h
    · split at h <;> cases h
  · rintro ⟨reached, hcontent, hclose⟩
    simp only [enclosed, hcontent, hclose]

/-- Blanks are passed over once. -/
theorem afterBlanks_afterBlanks (place : Place) (bytes : Bytes) :
    afterBlanks (afterBlanks place bytes).place (afterBlanks place bytes).rest =
      afterBlanks place bytes := by
  induction bytes generalizing place with
  | nil => rfl
  | cons b rest ih =>
    by_cases hblank : isBlankByte b = true
    · simp only [afterBlanks, if_pos hblank]
      exact ih _
    · simp only [afterBlanks, if_neg hblank]

/-- Whoever has passed over blanks finds none any more. -/
theorem peekPastBlanks_peekPastBlanks {cursor reached : Cursor} {ahead : Option UInt8}
    (h : peekPastBlanks cursor = .ok ahead reached) :
    peekPastBlanks reached = .ok ahead reached := by
  simp only [peekPastBlanks, EStateM.Result.ok.injEq] at h
  obtain ⟨rfl, rfl⟩ := h
  simp only [peekPastBlanks, afterBlanks_afterBlanks]

theorem length_advance (cursor : Cursor) :
    cursor.advance.rest.length = cursor.rest.length - 1 := by
  unfold Cursor.advance
  split
  · next h => simp [h]
  · next h => simp [h]

/-- A literal stands for one value. -/
theorem literal_value_eq_ok {letters : List Char} {found value : Value} {cursor last : Cursor} :
    (do skip; literal letters; pure found : Reader Value) cursor = .ok value last ↔
      literal letters cursor.advance = .ok () last ∧ found = value := by
  constructor
  · intro h
    obtain ⟨_, _, hskip, hliteral⟩ := bind_eq_ok.mp h
    obtain ⟨_, _, hletters, hfound⟩ := bind_eq_ok.mp hliteral
    obtain ⟨rfl, rfl⟩ := pure_eq_ok.mp hfound
    cases hskip
    exact ⟨hletters, rfl⟩
  · rintro ⟨hletters, rfl⟩
    exact bind_eq_ok.mpr ⟨(), cursor.advance, rfl, bind_eq_ok.mpr ⟨(), last, hletters, rfl⟩⟩

/-- Reads a member of an object as a value, in front of those that were read before. -/
def member (item : Reader Value) (name : String) (seen : Members) : Reader Members := do
  colon
  return (name, ← item) :: seen

/-- What is read of a value from its first byte on. -/
inductive Begun (inner : Option (Reader Value)) (cursor last : Cursor) : UInt8 → Value → Prop where
  /-- The literal `null`. -/
  | null (letters : literal ['u', 'l', 'l'] cursor.advance = .ok () last) :
    Begun inner cursor last (byte 'n') .null
  /-- The literal `true`. -/
  | yes (letters : literal ['r', 'u', 'e'] cursor.advance = .ok () last) :
    Begun inner cursor last (byte 't') (.bool true)
  /-- The literal `false`. -/
  | no (letters : literal ['a', 'l', 's', 'e'] cursor.advance = .ok () last) :
    Begun inner cursor last (byte 'f') (.bool false)
  /-- A number. -/
  | number {b : UInt8} {found : Number} (sign : (b == byte '-' || (digit? b).isSome) = true)
      (content : Reader.number cursor = .ok found last) : Begun inner cursor last b (.number found)
  /-- A string. -/
  | string {text : String} (content : stringContent cursor.advance = .ok text last) :
    Begun inner cursor last (byte '"') (.string text)
  /-- An array that is not too deep. -/
  | array {item : Reader Value} {found : List Value} {middle : Cursor} (deep : inner = some item)
      (content : Reader.items item cursor.advance = .ok found middle)
      (close : closeList middle = .ok () last) : Begun inner cursor last (byte '[') (.array found)
  /-- An object that is not too deep. -/
  | object {item : Reader Value} {seen : Members} {middle : Cursor} (deep : inner = some item)
      (content : Reader.members (member item) [] cursor.advance = .ok seen middle)
      (close : closeObject middle = .ok () last) :
    Begun inner cursor last (byte '{') (.object seen.reverse)

/-- What is read behind a byte becomes a value. -/
theorem skip_map_eq_ok {read : Reader α} {make : α → β} {cursor last : Cursor} {value : β} :
    (do skip; let found ← read; return make found : Reader β) cursor = .ok value last ↔
      ∃ found, read cursor.advance = .ok found last ∧ make found = value := by
  constructor
  · intro h
    obtain ⟨_, _, hskip, hread⟩ := bind_eq_ok.mp h
    obtain ⟨found, _, hfound, hvalue⟩ := bind_eq_ok.mp hread
    obtain ⟨rfl, rfl⟩ := pure_eq_ok.mp hvalue
    cases hskip
    exact ⟨found, hfound, rfl⟩
  · rintro ⟨found, hfound, rfl⟩
    exact bind_eq_ok.mpr ⟨(), cursor.advance, rfl, bind_eq_ok.mpr ⟨found, last, hfound, rfl⟩⟩

theorem begun_of_valueWith {inner : Option (Reader Value)} {cursor last : Cursor} {found : Value}
    (h : valueWith inner cursor = .ok found last) :
    ∃ b reached, peekPastBlanks cursor = .ok (some b) reached ∧
      Begun inner reached last b found := by
  obtain ⟨ahead, reached, hahead, hvalue⟩ := bind_eq_ok.mp h
  cases ahead with
  | none => cases hvalue
  | some b =>
    refine ⟨b, reached, hahead, ?_⟩
    simp only at hvalue
    split at hvalue
    · next hb =>
      obtain ⟨hletters, rfl⟩ := literal_value_eq_ok.mp hvalue
      exact eq_of_beq hb ▸ .null hletters
    split at hvalue
    · next hb =>
      obtain ⟨hletters, rfl⟩ := literal_value_eq_ok.mp hvalue
      exact eq_of_beq hb ▸ .yes hletters
    split at hvalue
    · next hb =>
      obtain ⟨hletters, rfl⟩ := literal_value_eq_ok.mp hvalue
      exact eq_of_beq hb ▸ .no hletters
    split at hvalue
    · next hb =>
      obtain ⟨number, _, hnumber, hfound⟩ := bind_eq_ok.mp hvalue
      obtain ⟨rfl, rfl⟩ := pure_eq_ok.mp hfound
      exact .number hb hnumber
    split at hvalue
    · next hb =>
      obtain ⟨text, hcontent, rfl⟩ := skip_map_eq_ok.mp hvalue
      exact eq_of_beq hb ▸ .string hcontent
    split at hvalue
    · next hb =>
      cases inner with
      | none => cases hvalue
      | some item =>
        obtain ⟨items, hcontent, rfl⟩ := skip_map_eq_ok.mp hvalue
        obtain ⟨middle, hread, hclose⟩ := enclosed_eq_ok.mp (placed_eq_ok.mp hcontent)
        exact eq_of_beq hb ▸ .array rfl hread hclose
    split at hvalue
    · next hb =>
      cases inner with
      | none => cases hvalue
      | some item =>
        obtain ⟨seen, hcontent, rfl⟩ := skip_map_eq_ok.mp hvalue
        obtain ⟨middle, hread, hclose⟩ := enclosed_eq_ok.mp (placed_eq_ok.mp hcontent)
        exact eq_of_beq hb ▸ .object rfl hread hclose
    · cases hvalue

theorem valueWith_of_begun {inner : Option (Reader Value)} {cursor reached last : Cursor}
    {b : UInt8} {found : Value} (hahead : peekPastBlanks cursor = .ok (some b) reached)
    (h : Begun inner reached last b found) : valueWith inner cursor = .ok found last := by
  refine bind_eq_ok.mpr ⟨some b, reached, hahead, ?_⟩
  cases h with
  | null hletters | yes hletters | no hletters => exact literal_value_eq_ok.mpr ⟨hletters, rfl⟩
  | number hb hnumber =>
    have hother : ∀ {c : Char}, (byte c == byte '-' || (digit? (byte c)).isSome) = false →
        (b == byte c) = false := by
      intro c hc
      refine beq_eq_false_iff_ne.mpr ?_
      rintro rfl
      rw [hb] at hc
      cases hc
    simp only [hother (c := 'n') rfl, hother (c := 't') rfl, hother (c := 'f') rfl, hb, if_true]
    exact bind_eq_ok.mpr ⟨_, last, hnumber, rfl⟩
  | string hcontent => exact skip_map_eq_ok.mpr ⟨_, hcontent, rfl⟩
  | array hdeep hcontent hclose =>
    subst hdeep
    exact skip_map_eq_ok.mpr
      ⟨_, placed_eq_ok.mpr (enclosed_eq_ok.mpr ⟨_, hcontent, hclose⟩), rfl⟩
  | object hdeep hcontent hclose =>
    subst hdeep
    exact skip_map_eq_ok.mpr
      ⟨_, placed_eq_ok.mpr (enclosed_eq_ok.mpr ⟨_, hcontent, hclose⟩), rfl⟩

/-- A value is read from its first byte on, behind blanks. -/
theorem valueWith_iff {inner : Option (Reader Value)} {cursor last : Cursor} {found : Value} :
    valueWith inner cursor = .ok found last ↔
      ∃ b reached,
        peekPastBlanks cursor = .ok (some b) reached ∧ Begun inner reached last b found := by
  constructor
  · exact begun_of_valueWith
  · rintro ⟨b, reached, hahead, hbegun⟩
    exact valueWith_of_begun hahead hbegun

/-- Where a string or an object is read as a value there is one, behind blanks and the byte that
begins it. -/
theorem valueWith_eq_ok {inner : Option (Reader Value)} {cursor last : Cursor} {found : Value}
    (h : valueWith inner cursor = .ok found last) :
    (∀ text, found = .string text →
      ∃ reached, peekPastBlanks cursor = .ok (some (byte '"')) reached ∧
        stringContent reached.advance = .ok text last) ∧
    ∀ members, found = .object members →
      ∃ item reached middle seen, inner = some item ∧
        peekPastBlanks cursor = .ok (some (byte '{')) reached ∧
        Reader.members (member item) [] reached.advance = .ok seen middle ∧
        closeObject middle = .ok () last ∧ members = seen.reverse := by
  obtain ⟨b, reached, hahead, hbegun⟩ := valueWith_iff.mp h
  constructor
  · rintro text rfl
    cases hbegun with
    | string hcontent => exact ⟨reached, hahead, hcontent⟩
  · rintro members rfl
    cases hbegun with
    | object hdeep hcontent hclose => exact ⟨_, reached, _, _, hdeep, hahead, hcontent, hclose, rfl⟩

/-- Where a string is read as a value a reader that would also read `null` gets it. -/
theorem optional_of_valueWith {inner : Option (Reader Value)} {cursor last : Cursor} {text : String}
    (h : valueWith inner cursor = .ok (.string text) last) (wanted : String) :
    optional (string wanted) cursor = .ok (some text) last := by
  obtain ⟨reached, hahead, hcontent⟩ := (valueWith_eq_ok h).1 text rfl
  have hstring : string wanted reached = .ok text last :=
    bind_eq_ok.mpr ⟨_, reached, peekPastBlanks_peekPastBlanks hahead,
      bind_eq_ok.mpr ⟨(), reached.advance, rfl, hcontent⟩⟩
  refine bind_eq_ok.mpr ⟨_, reached, hahead, ?_⟩
  exact bind_eq_ok.mpr ⟨text, last, hstring, rfl⟩

theorem length_advance_lt {cursor : Cursor} {b : UInt8} (h : cursor.rest.head? = some b) :
    cursor.advance.rest.length < cursor.rest.length := by
  rw [length_advance]
  cases hrest : cursor.rest with
  | nil => simp [hrest] at h
  | cons => simp

/-- Items are read until none lies ahead, and one after the other. -/
theorem itemsFrom_succ_eq_ok {item : Reader α} {bound : Nat} {seen found : List α}
    {cursor last : Cursor} :
    itemsFrom item (bound + 1) seen cursor = .ok found last ↔
      (itemAhead seen.isEmpty cursor = .ok false last ∧ seen.reverse = found) ∨
      ∃ reached value behind, itemAhead seen.isEmpty cursor = .ok true reached ∧
        item reached = .ok value behind ∧
        itemsFrom item bound (value :: seen) behind = .ok found last := by
  constructor
  · intro h
    obtain ⟨more, reached, hahead, hrest⟩ := bind_eq_ok.mp h
    cases more with
    | false =>
      obtain ⟨rfl, rfl⟩ := pure_eq_ok.mp hrest
      exact Or.inl ⟨hahead, rfl⟩
    | true =>
      obtain ⟨value, behind, hvalue, hlater⟩ := bind_eq_ok.mp hrest
      exact Or.inr ⟨reached, value, behind, hahead, hvalue, hlater⟩
  · rintro (⟨hahead, rfl⟩ | ⟨reached, value, behind, hahead, hvalue, hlater⟩)
    · exact bind_eq_ok.mpr ⟨false, last, hahead, rfl⟩
    · exact bind_eq_ok.mpr
        ⟨true, reached, hahead, bind_eq_ok.mpr ⟨value, behind, hvalue, hlater⟩⟩

/-- Members are read until none lies ahead, and one after the other. -/
theorem membersFrom_succ_eq_ok {take : String → τ → Reader τ} {bound : Nat} {first : Bool}
    {state found : τ} {cursor last : Cursor} :
    membersFrom take (bound + 1) first state cursor = .ok found last ↔
      (memberAhead first cursor = .ok false last ∧ state = found) ∨
      ∃ reached name named next behind, memberAhead first cursor = .ok true reached ∧
        stringContent reached.advance = .ok name named ∧ take name state named = .ok next behind ∧
        membersFrom take bound false next behind = .ok found last := by
  constructor
  · intro h
    obtain ⟨more, reached, hahead, hrest⟩ := bind_eq_ok.mp h
    cases more with
    | false =>
      obtain ⟨rfl, rfl⟩ := pure_eq_ok.mp hrest
      exact Or.inl ⟨hahead, rfl⟩
    | true =>
      obtain ⟨_, _, hskip, hcontent⟩ := bind_eq_ok.mp hrest
      obtain ⟨name, named, hname, hmember⟩ := bind_eq_ok.mp hcontent
      obtain ⟨next, behind, hnext, hlater⟩ := bind_eq_ok.mp hmember
      cases hskip
      exact Or.inr ⟨reached, name, named, next, behind, hahead, hname, hnext, hlater⟩
  · rintro (⟨hahead, rfl⟩ | ⟨reached, name, named, next, behind, hahead, hname, hnext, hlater⟩)
    · exact bind_eq_ok.mpr ⟨false, last, hahead, rfl⟩
    · refine bind_eq_ok.mpr ⟨true, reached, hahead, ?_⟩
      refine bind_eq_ok.mpr ⟨(), reached.advance, rfl, ?_⟩
      refine bind_eq_ok.mpr ⟨name, named, hname, ?_⟩
      exact bind_eq_ok.mpr ⟨next, behind, hnext, hlater⟩

theorem member_eq_ok {item : Reader Value} {name : String} {seen next : Members}
    {cursor last : Cursor} :
    member item name seen cursor = .ok next last ↔
      ∃ value reached, colon cursor = .ok () reached ∧ item reached = .ok value last ∧
        next = (name, value) :: seen := by
  constructor
  · intro h
    obtain ⟨_, reached, hcolon, hitem⟩ := bind_eq_ok.mp h
    obtain ⟨value, _, hvalue, hnext⟩ := bind_eq_ok.mp hitem
    obtain ⟨rfl, rfl⟩ := pure_eq_ok.mp hnext
    exact ⟨value, reached, hcolon, hvalue, rfl⟩
  · rintro ⟨value, reached, hcolon, hvalue, rfl⟩
    exact bind_eq_ok.mpr ⟨(), reached, hcolon, bind_eq_ok.mpr ⟨value, last, hvalue, rfl⟩⟩

section Agreement

/-! Another reader of members that keeps, of those that were read as values, what `kept` says. -/

variable {item : Reader Value} {other : String → τ → Reader τ} {kept : Members → τ}
  {Fine : Members → Prop}

/-- Members that are fine were so from the first on. -/
theorem fine_of_membersFrom (down : ∀ entry seen, Fine (entry :: seen) → Fine seen) {bound : Nat}
    {first : Bool} {before after : Members} {cursor last : Cursor}
    (h : membersFrom (member item) bound first before cursor = .ok after last)
    (fine : Fine after) : Fine before := by
  induction bound generalizing first before cursor with
  | zero => cases h
  | succ bound ih =>
    rcases membersFrom_succ_eq_ok.mp h with
      ⟨-, rfl⟩ | ⟨_, name, _, seen, _, -, -, hread, hlater⟩
    · exact fine
    · obtain ⟨value, _, -, -, rfl⟩ := member_eq_ok.mp hread
      exact down _ _ (ih hlater)

/-- Members are read alike when each of them is. -/
theorem membersFrom_kept (down : ∀ entry seen, Fine (entry :: seen) → Fine seen)
    (alike : ∀ name value seen cursor last, member item name seen cursor =
      .ok ((name, value) :: seen) last → Fine ((name, value) :: seen) →
      other name (kept seen) cursor = .ok (kept ((name, value) :: seen)) last) {bound : Nat}
    {first : Bool} {before after : Members} {cursor last : Cursor}
    (h : membersFrom (member item) bound first before cursor = .ok after last)
    (fine : Fine after) :
    membersFrom other bound first (kept before) cursor = .ok (kept after) last := by
  induction bound generalizing first before cursor with
  | zero => cases h
  | succ bound ih =>
    apply membersFrom_succ_eq_ok.mpr
    rcases membersFrom_succ_eq_ok.mp h with
      ⟨hahead, rfl⟩ | ⟨reached, name, named, seen, behind, hahead, hname, hread, hlater⟩
    · exact Or.inl ⟨hahead, rfl⟩
    · have hfine := fine_of_membersFrom down hlater fine
      obtain ⟨value, _, -, -, rfl⟩ := member_eq_ok.mp hread
      exact Or.inr ⟨reached, name, named, _, behind, hahead, hname,
        alike name value before named behind hread hfine, ih hlater⟩

/-- An object that is read as a value is read as a record when its members are. -/
theorem record_kept (down : ∀ entry seen, Fine (entry :: seen) → Fine seen)
    (alike : ∀ name value seen cursor last, member item name seen cursor =
      .ok ((name, value) :: seen) last → Fine ((name, value) :: seen) →
      other name (kept seen) cursor = .ok (kept ((name, value) :: seen)) last)
    {cursor last : Cursor} {members : Members}
    (h : valueWith (some item) cursor = .ok (.object members) last) (fine : Fine members.reverse)
    {complete : τ → Except Fault α} {result : α}
    (completed : complete (kept members.reverse) = .ok result) (wanted : String)
    (sequence : Reader α) :
    record wanted (kept []) other complete sequence cursor = .ok result last := by
  obtain ⟨_, reached, middle, seen, heq, hahead, hmembers, hclose, rfl⟩ :=
    (valueWith_eq_ok h).2 members rfl
  obtain rfl := Option.some.inj heq
  rw [List.reverse_reverse] at fine completed
  obtain ⟨_, _, hremaining, hread⟩ := bind_eq_ok.mp hmembers
  cases hremaining
  have hkept := membersFrom_kept down alike hread fine
  refine bind_eq_ok.mpr ⟨_, reached, hahead, ?_⟩
  refine bind_eq_ok.mpr ⟨_, reached, peekPastBlanks_peekPastBlanks hahead, ?_⟩
  refine bind_eq_ok.mpr ⟨(), reached.advance, rfl, ?_⟩
  refine placed_eq_ok.mpr (enclosed_eq_ok.mpr ⟨middle, ?_, hclose⟩)
  refine bind_eq_ok.mpr ⟨kept seen, middle, bind_eq_ok.mpr ⟨_, _, rfl, hkept⟩, ?_⟩
  rw [completed]
  rfl

end Agreement

end Reader

/-- A document is read when a reader comes to its end with it. -/
theorem readWith_eq_ok {α : Type} {read : Reader α} {document : Bytes} {value : α} :
    readWith read document = .ok value ↔
      ∃ reached last, read (Cursor.start document) = .ok value reached ∧
        Reader.finish reached = .ok () last := by
  have hwhole : ∀ last, (do let value ← read; Reader.finish; pure value : Reader α)
      (Cursor.start document) = .ok value last ↔
        ∃ reached, read (Cursor.start document) = .ok value reached ∧
          Reader.finish reached = .ok () last := by
    intro last
    constructor
    · intro h
      obtain ⟨found, reached, hread, hrest⟩ := Reader.bind_eq_ok.mp h
      obtain ⟨_, final, hfinish, hfound⟩ := Reader.bind_eq_ok.mp hrest
      obtain ⟨rfl, rfl⟩ := Reader.pure_eq_ok.mp hfound
      exact ⟨reached, hread, hfinish⟩
    · rintro ⟨reached, hread, hfinish⟩
      exact Reader.bind_eq_ok.mpr ⟨value, reached, hread,
        Reader.bind_eq_ok.mpr ⟨(), last, hfinish, rfl⟩⟩
  constructor
  · intro h
    unfold readWith at h
    split at h
    · next found last hread =>
      obtain rfl := Except.ok.inj h
      obtain ⟨reached, hvalue, hfinish⟩ := (hwhole last).mp hread
      exact ⟨reached, last, hvalue, hfinish⟩
    · cases h
  · rintro ⟨reached, last, hread, hfinish⟩
    have h := (hwhole last).mpr ⟨reached, hread, hfinish⟩
    simp only [readWith, h]

end RelyingParty.Json
