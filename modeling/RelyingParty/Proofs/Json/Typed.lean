import RelyingParty.Proofs.Json.Members

/-!
# Reading values of a wanted type as values

A string, an optional value or a list of values is read exactly where the value is read that writes
it, and an object member by member where it is read as a value whose members lead to the same state.
So what is read of a document can be told from the value that it is read as.
-/

namespace RelyingParty.Json.Reader

open RelyingParty.Text

variable {α σ : Type} {inner : Option (Reader Value)} {cursor last : Cursor}

/-- A value is read as before once blanks have been passed over. -/
theorem valueWith_after_blanks {reached : Cursor} {ahead : Option UInt8}
    (h : peekPastBlanks cursor = .ok ahead reached) :
    valueWith inner reached = valueWith inner cursor := by
  cases inner <;> exact bind_congr_of_eq ((peekPastBlanks_peekPastBlanks h).trans h.symm) _

/-- What begins like `null` is read as nothing else. -/
theorem valueWith_of_letter {reached : Cursor} {found : Value}
    (h : peekPastBlanks cursor = .ok (some (byte 'n')) reached) :
    valueWith inner cursor = .ok found last ↔
      found = .null ∧ literal ['u', 'l', 'l'] reached.advance = .ok () last := by
  rw [valueWith_iff]
  constructor
  · rintro ⟨b, other, hother, hbegun⟩
    obtain ⟨hb, rfl⟩ := EStateM.Result.ok.inj (h.symm.trans hother)
    obtain rfl := Option.some.inj hb
    generalize hletter : byte 'n' = letter at hbegun
    cases hbegun with
    | null hliteral => exact ⟨rfl, hliteral⟩
    | number sign => exact absurd (hletter ▸ sign) (by decide)
    | yes | no | string | array | object => exact absurd hletter (by decide)
  · rintro ⟨rfl, hliteral⟩
    exact ⟨_, reached, h, .null hliteral⟩

theorem letter_of_valueWith (h : valueWith inner cursor = .ok .null last) :
    ∃ reached, peekPastBlanks cursor = .ok (some (byte 'n')) reached := by
  obtain ⟨b, reached, hahead, hbegun⟩ := valueWith_iff.mp h
  cases hbegun with
  | null => exact ⟨reached, hahead⟩

/-- What is read in one way is what is written so as a value. -/
def Matches (read : Reader α) (item : Reader Value) (write : α → Value) : Prop :=
  ∀ cursor last found, read cursor = .ok found last ↔ item cursor = .ok (write found) last

/-- A string is read where the value is. -/
theorem matches_string (inner : Option (Reader Value)) (wanted : String) :
    Matches (string wanted) (valueWith inner) .string := by
  intro cursor last text
  rw [valueWith_iff, string_iff_quote]
  constructor
  · rintro ⟨reached, hquote, hcontent⟩
    exact ⟨_, reached, hquote, .string hcontent⟩
  · rintro ⟨b, reached, hahead, hbegun⟩
    cases hbegun with
    | string hcontent => exact ⟨reached, hahead, hcontent⟩

/-- What is written for an optional value. -/
def writeOptional (write : α → Value) : Option α → Value
  | some found => write found
  | none => .null

/-- An optional value is read where the value or `null` is. -/
theorem Matches.optional {read : Reader α} {write : α → Value}
    (same : Matches read (valueWith inner) write) (notNull : ∀ found, write found ≠ .null) :
    Matches (Reader.optional read) (valueWith inner) (writeOptional write) := by
  intro cursor last found
  obtain ⟨ahead, reached, hahead⟩ : ∃ ahead reached, peekPastBlanks cursor = .ok ahead reached :=
    ⟨_, _, rfl⟩
  have hoptional : Reader.optional read cursor =
      (if ahead == some (byte 'n') then do skip; literal ['u', 'l', 'l']; pure none
        else return some (← read) : Reader (Option α)) reached := bind_of_ok hahead _
  rw [hoptional]
  by_cases hletter : (ahead == some (byte 'n')) = true
  · obtain rfl := eq_of_beq hletter
    rw [if_pos hletter, valueWith_of_letter hahead, skip_bind]
    constructor
    · intro h
      obtain ⟨_, _, hliteral, hfound⟩ := bind_eq_ok.mp h
      obtain ⟨rfl, rfl⟩ := pure_eq_ok.mp hfound
      exact ⟨rfl, hliteral⟩
    · rintro ⟨hnull, hliteral⟩
      cases found with
      | some found => exact absurd hnull (notNull found)
      | none => exact bind_eq_ok.mpr ⟨(), last, hliteral, rfl⟩
  · rw [if_neg hletter, ← valueWith_after_blanks hahead]
    constructor
    · intro h
      obtain ⟨value, _, hread, hfound⟩ := bind_eq_ok.mp h
      obtain ⟨rfl, rfl⟩ := pure_eq_ok.mp hfound
      exact (same _ _ _).mp hread
    · intro h
      cases found with
      | some found => exact bind_eq_ok.mpr ⟨found, last, (same _ _ _).mpr h, rfl⟩
      | none =>
        rw [valueWith_after_blanks hahead] at h
        obtain ⟨other, hother⟩ := letter_of_valueWith h
        obtain ⟨rfl, -⟩ := EStateM.Result.ok.inj (hahead.symm.trans hother)
        exact absurd (beq_self_eq_true _) hletter

/-- The items that were read before stay in front. -/
theorem prefix_of_itemsFrom {item : Reader α} {bound : Nat} {seen found : List α}
    (h : itemsFrom item bound seen cursor = .ok found last) : seen.reverse <+: found := by
  induction bound generalizing seen cursor with
  | zero => cases h
  | succ bound ih =>
    rcases itemsFrom_succ_eq_ok.mp h with ⟨-, rfl⟩ | ⟨_, value, _, -, -, hlater⟩
    · exact List.prefix_rfl
    · have hprefix := ih hlater
      rw [List.reverse_cons] at hprefix
      exact (List.prefix_append _ _).trans hprefix

/-- Items of one type are read where the values are. -/
theorem itemsFrom_iff {read : Reader α} {item : Reader Value} {write : α → Value}
    (same : Matches read item write)
    (injective : ∀ first second, write first = write second → first = second) {bound : Nat}
    {seen found : List α} :
    itemsFrom read bound seen cursor = .ok found last ↔
      itemsFrom item bound (seen.map write) cursor = .ok (found.map write) last := by
  induction bound generalizing seen cursor with
  | zero => exact ⟨nofun, nofun⟩
  | succ bound ih =>
    have hahead : itemAhead (seen.map write).isEmpty = itemAhead seen.isEmpty := by
      rw [List.isEmpty_map]
    rw [itemsFrom_succ_eq_ok, itemsFrom_succ_eq_ok, hahead, ← List.map_reverse,
      List.map_inj_right injective]
    apply or_congr_right
    constructor
    · rintro ⟨reached, value, behind, hmore, hvalue, hlater⟩
      exact ⟨reached, write value, behind, hmore, (same _ _ _).mp hvalue, ih.mp hlater⟩
    · rintro ⟨reached, value, behind, hmore, hvalue, hlater⟩
      -- the value is among those found, and these are all written
      have hfound : value ∈ found.map write :=
        (prefix_of_itemsFrom hlater).subset (List.mem_reverse.mpr List.mem_cons_self)
      obtain ⟨item, -, rfl⟩ := List.mem_map.mp hfound
      exact ⟨reached, item, behind, hmore, (same _ _ _).mpr hvalue, ih.mpr hlater⟩

/-- A list is read where the array is. -/
theorem Matches.list {read : Reader α} {item : Reader Value} {write : α → Value}
    (same : Matches read item write)
    (injective : ∀ first second, write first = write second → first = second) :
    Matches (Reader.list read) (valueWith (some item)) fun found => .array (found.map write) := by
  intro cursor last found
  rw [valueWith_iff, list_iff_bracket]
  constructor
  · rintro ⟨reached, middle, hbracket, hitems, hclose⟩
    obtain ⟨_, _, hremaining, hfrom⟩ := bind_eq_ok.mp hitems
    cases hremaining
    have hvalues := (itemsFrom_iff same injective).mp hfrom
    exact ⟨_, reached, hbracket,
      .array rfl (bind_eq_ok.mpr ⟨_, reached.advance, rfl, hvalues⟩) hclose⟩
  · rintro ⟨b, reached, hahead, hbegun⟩
    cases hbegun with
    | array hdeep hitems hclose =>
      obtain rfl := Option.some.inj hdeep
      obtain ⟨_, _, hremaining, hfrom⟩ := bind_eq_ok.mp hitems
      cases hremaining
      have hread : itemsFrom read (reached.advance.rest.length + 1) [] reached.advance =
          .ok found _ := (itemsFrom_iff same injective).mpr hfrom
      exact ⟨reached, _, hahead, bind_eq_ok.mpr ⟨_, reached.advance, rfl, hread⟩, hclose⟩

/-- The value of a known member is read behind its colon. -/
theorem Matches.field {read : Reader α} {item : Reader Value} {write : α → Value}
    (same : Matches read item write) {name : String} {seen found : Option α} :
    Reader.field name seen read cursor = .ok found last ↔
      seen = none ∧ ∃ value reached, colon cursor = .ok () reached ∧
        item reached = .ok (write value) last ∧ found = some value := by
  simp only [field_iff_colon, same _ _ _]

section Members

/-! A reader of members that can be told from the values that are read of them. -/

variable {item : Reader Value} {other : String → σ → Reader σ}
  {take : σ → String × Value → Option σ}

/-- The members that are read stand in front of those that were read before, last first. -/
theorem exists_read_of_membersFrom {bound : Nat} {first : Bool} {seen found : Members}
    (h : membersFrom (member item) bound first seen cursor = .ok found last) :
    ∃ read, found = List.reverse read ++ seen := by
  induction bound generalizing first seen cursor with
  | zero => cases h
  | succ bound ih =>
    rcases membersFrom_succ_eq_ok.mp h with
      ⟨-, rfl⟩ | ⟨_, name, _, next, _, -, -, hread, hlater⟩
    · exact ⟨[], rfl⟩
    · obtain ⟨value, _, -, -, rfl⟩ := member_eq_ok.mp hread
      obtain ⟨read, rfl⟩ := ih hlater
      exact ⟨(name, value) :: read, by simp⟩

/-- Members lead to a state where they are read as values that do. -/
theorem membersFrom_iff
    (same : ∀ name state next cursor last, other name state cursor = .ok next last ↔
      ∃ value reached, colon cursor = .ok () reached ∧ item reached = .ok value last ∧
        take state (name, value) = some next)
    {bound : Nat} {first : Bool} {state found : σ} (seen : Members) :
    membersFrom other bound first state cursor = .ok found last ↔
      ∃ read, membersFrom (member item) bound first seen cursor =
          .ok (List.reverse read ++ seen) last ∧ read.foldlM take state = some found := by
  induction bound generalizing first state seen cursor with
  | zero => exact ⟨nofun, fun ⟨_, h, _⟩ => nomatch h⟩
  | succ bound ih =>
    constructor
    · intro h
      rcases membersFrom_succ_eq_ok.mp h with
        ⟨hahead, rfl⟩ | ⟨reached, name, named, next, behind, hahead, hname, hread, hlater⟩
      · exact ⟨[], membersFrom_succ_eq_ok.mpr (Or.inl ⟨hahead, rfl⟩), rfl⟩
      · obtain ⟨value, opened, hcolon, hvalue, htake⟩ := (same _ _ _ _ _).mp hread
        obtain ⟨read, hmembers, hfold⟩ := (ih ((name, value) :: seen)).mp hlater
        refine ⟨(name, value) :: read, ?_, ?_⟩
        · rw [List.reverse_cons, List.append_assoc]
          exact membersFrom_succ_eq_ok.mpr (Or.inr ⟨reached, name, named, _, behind, hahead, hname,
            member_eq_ok.mpr ⟨value, opened, hcolon, hvalue, rfl⟩, hmembers⟩)
        · rw [List.foldlM_cons, htake]
          exact hfold
    · rintro ⟨read, h, hfold⟩
      apply membersFrom_succ_eq_ok.mpr
      rcases membersFrom_succ_eq_ok.mp h with
        ⟨hahead, hsame⟩ | ⟨reached, name, named, next, behind, hahead, hname, hmember, hlater⟩
      · have hread : read = [] := by simpa using hsame
        rw [hread] at hfold
        exact Or.inl ⟨hahead, Option.some.inj hfold⟩
      · obtain ⟨value, opened, hcolon, hvalue, rfl⟩ := member_eq_ok.mp hmember
        obtain ⟨later, hlast⟩ := exists_read_of_membersFrom hlater
        have hread : read = (name, value) :: later := by
          rw [List.append_cons, List.append_cancel_right_eq] at hlast
          rw [← List.reverse_reverse read, hlast]
          simp
        rw [hread, List.foldlM_cons] at hfold
        obtain ⟨next, htake, hfold⟩ := Option.bind_eq_some_iff.mp hfold
        exact Or.inr ⟨reached, name, named, next, behind, hahead, hname,
          (same _ _ _ _ _).mpr ⟨value, opened, hcolon, hvalue, htake⟩,
          (ih _).mpr ⟨later, hlast ▸ hlater, hfold⟩⟩

/-- An object is read member by member where it is read as a value whose members lead to a state
from which the result can be made. -/
theorem object_iff_valueWith {wanted : String} {start : σ} {complete : σ → Except Fault α}
    (same : ∀ name state next cursor last, other name state cursor = .ok next last ↔
      ∃ value reached, colon cursor = .ok () reached ∧ item reached = .ok value last ∧
        take state (name, value) = some next) {result : α} :
    object wanted start other complete cursor = .ok result last ↔
      ∃ members state, valueWith (some item) cursor = .ok (.object members) last ∧
        members.foldlM take start = some state ∧ complete state = .ok result := by
  rw [object_iff_brace]
  constructor
  · rintro ⟨reached, middle, state, hbrace, hmembers, hclose, hcomplete⟩
    obtain ⟨_, _, hremaining, hfrom⟩ := bind_eq_ok.mp hmembers
    cases hremaining
    obtain ⟨members, hvalues, hfold⟩ := (membersFrom_iff same []).mp hfrom
    rw [List.append_nil] at hvalues
    have hbegun : Begun (some item) reached last (byte '{') (.object members.reverse.reverse) :=
      .object rfl (bind_eq_ok.mpr ⟨_, reached.advance, rfl, hvalues⟩) hclose
    rw [List.reverse_reverse] at hbegun
    exact ⟨members, state, valueWith_iff.mpr ⟨_, reached, hbrace, hbegun⟩, hfold, hcomplete⟩
  · rintro ⟨members, state, hvalue, hfold, hcomplete⟩
    obtain ⟨found, reached, middle, seen, heq, hahead, hmembers, hclose, rfl⟩ :=
      (valueWith_eq_ok hvalue).2 members rfl
    obtain rfl := Option.some.inj heq
    obtain ⟨_, _, hremaining, hfrom⟩ := bind_eq_ok.mp hmembers
    cases hremaining
    have hread : membersFrom other (reached.advance.rest.length + 1) true start reached.advance =
        .ok state middle :=
      (membersFrom_iff same []).mpr ⟨seen.reverse, by simpa using hfrom, hfold⟩
    exact ⟨reached, middle, state, hahead, bind_eq_ok.mpr ⟨_, _, rfl, hread⟩, hclose, hcomplete⟩

end Members

end RelyingParty.Json.Reader
