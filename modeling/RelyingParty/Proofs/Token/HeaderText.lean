import RelyingParty.Proofs.Json.Members
import RelyingParty.Token.Header

/-!
# The texts of headers

The first look at a header accepts two kinds of JSON texts: an object in which the algorithm and the
identifier of the key are given at most once and each as a string or `null`, whatever else it holds,
and an array of at most two such values. No other bytes are accepted.
-/

namespace RelyingParty

open Json Text

namespace Json.Reader

/-- A word in a document. -/
def wordNull : Bytes := ['n', 'u', 'l', 'l'].map byte

/-- The text of a string or of `null`. -/
inductive TextOrNull : Bytes → Option String → Prop where
  /-- The word `null`. -/
  | null {gap : Bytes} (blank : AllBlank gap) : TextOrNull (gap ++ wordNull) none
  /-- A string. -/
  | text {gap spelled : Bytes} {found : String} (blank : AllBlank gap)
      (text : SpelledText spelled found) : TextOrNull (gap ++ byte '"' :: spelled) (some found)

/-- A string or `null` is read where one of them stands. -/
theorem optional_string_eq_ok {wanted : String} {cursor last : Cursor} {found : Option String} :
    optional (string wanted) cursor = .ok found last ↔
      ∃ text, TextOrNull text found ∧ cursor.Passes text last := by
  have hagain : ∀ {ahead reached}, peekPastBlanks cursor = .ok ahead reached →
      string wanted reached = string wanted cursor :=
    fun hpeek => bind_congr_of_eq ((peekPastBlanks_peekPastBlanks hpeek).trans hpeek.symm) _
  constructor
  · intro h
    obtain ⟨ahead, reached, hpeek, hrest⟩ := bind_eq_ok.mp h
    split at hrest
    · next hnull =>
      obtain ⟨gap, hgap, hblanks, hahead, -⟩ := peekPastBlanks_eq_ok.mp hpeek
      rw [beq_iff_eq] at hnull
      rw [skip_bind] at hrest
      obtain ⟨_, _, hliteral, hdone⟩ := bind_eq_ok.mp hrest
      obtain ⟨rfl, rfl⟩ := pure_eq_ok.mp hdone
      exact ⟨_, .null hgap, hblanks.trans
        (Cursor.passes_cons.mpr ⟨hahead.trans hnull, literal_eq_ok.mp hliteral⟩)⟩
    · obtain ⟨text, _, hstring, hdone⟩ := bind_eq_ok.mp hrest
      obtain ⟨rfl, rfl⟩ := pure_eq_ok.mp hdone
      obtain ⟨gap, spelled, hgap, hspelled, hpasses⟩ := string_eq_ok.mp (hagain hpeek ▸ hstring)
      exact ⟨_, .text hgap hspelled, hpasses⟩
  · rintro ⟨text, htext, hpasses⟩
    cases htext with
    | @null gap hgap =>
      obtain ⟨reached, hblanks, hword⟩ := Cursor.passes_append.mp hpasses
      obtain ⟨hahead, hlater⟩ := Cursor.passes_cons.mp hword
      have hpeek : peekPastBlanks cursor = .ok (some (byte 'n')) reached :=
        peekPastBlanks_eq_ok.mpr ⟨gap, hgap, hblanks, hahead, by rintro _ ⟨⟩; decide⟩
      refine bind_eq_ok.mpr ⟨_, reached, hpeek, ?_⟩
      rw [if_pos (beq_self_eq_true _), skip_bind]
      exact bind_eq_ok.mpr ⟨(), last, literal_eq_ok.mpr hlater, rfl⟩
    | @text gap spelled found hgap hspelled =>
      have hstring : string wanted cursor = .ok found last :=
        string_eq_ok.mpr ⟨gap, spelled, hgap, hspelled, hpasses⟩
      obtain ⟨reached, hblanks, hquoted⟩ := Cursor.passes_append.mp hpasses
      obtain ⟨hahead, -⟩ := Cursor.passes_cons.mp hquoted
      have hpeek : peekPastBlanks cursor = .ok (some (byte '"')) reached :=
        peekPastBlanks_eq_ok.mpr ⟨gap, hgap, hblanks, hahead, by rintro _ ⟨⟩; decide⟩
      refine bind_eq_ok.mpr ⟨_, reached, hpeek, ?_⟩
      rw [if_neg (by decide)]
      exact bind_eq_ok.mpr ⟨found, last, (hagain hpeek).trans hstring, rfl⟩

/-- A string or `null` is a value. -/
theorem TextOrNull.written {text : Bytes} {found : Option String} (h : TextOrNull text found) :
    Written .value text := by
  cases h with
  | null hgap => exact .blanks hgap (.scalar (.word (by decide)))
  | text hgap hspelled => exact .blanks hgap (.scalar (.string (.of_spelled hspelled)))

/-- An item lies ahead when something else than the end of the array does. -/
theorem itemAhead_first_eq_ok {cursor last : Cursor} {more : Bool} :
    itemAhead true cursor = .ok more last ↔
      ∃ b, peekPastBlanks cursor = .ok (some b) last ∧ (more = true ↔ b ≠ byte ']') := by
  constructor
  · intro h
    obtain ⟨ahead, reached, hpeek, hrest⟩ := bind_eq_ok.mp h
    cases ahead with
    | none => cases hrest
    | some b =>
      simp only at hrest
      split at hrest
      · next hend =>
        obtain ⟨rfl, rfl⟩ := pure_eq_ok.mp hrest
        exact ⟨b, hpeek, by simp [eq_of_beq hend]⟩
      · next hother =>
        obtain ⟨rfl, rfl⟩ := pure_eq_ok.mp hrest
        exact ⟨b, hpeek, by simpa using hother⟩
  · rintro ⟨b, hpeek, hmore⟩
    refine bind_eq_ok.mpr ⟨some b, last, hpeek, ?_⟩
    cases more <;> simp_all [pure, EStateM.pure]

/-- A further item lies ahead behind a comma. -/
theorem itemAhead_next_eq_ok {cursor last : Cursor} {more : Bool} :
    itemAhead false cursor = .ok more last ↔
      more = false ∧ peekPastBlanks cursor = .ok (some (byte ']')) last ∨
      more = true ∧ ∃ gap reached b, AllBlank gap ∧ cursor.Passes (gap ++ [byte ',']) reached ∧
        peekPastBlanks reached = .ok (some b) last ∧ b ≠ byte ']' := by
  constructor
  · intro h
    obtain ⟨ahead, reached, hpeek, hrest⟩ := bind_eq_ok.mp h
    cases ahead with
    | none => cases hrest
    | some b =>
      simp only [Bool.false_eq_true, if_false] at hrest
      split at hrest
      · next hend =>
        obtain ⟨rfl, rfl⟩ := pure_eq_ok.mp hrest
        exact Or.inl ⟨rfl, eq_of_beq hend ▸ hpeek⟩
      split at hrest
      · next hcomma =>
        obtain rfl := eq_of_beq hcomma
        obtain ⟨gap, hgap, hblanks, hahead, -⟩ := peekPastBlanks_eq_ok.mp hpeek
        rw [skip_bind] at hrest
        obtain ⟨next, behind, hagain, hkind⟩ := bind_eq_ok.mp hrest
        cases next with
        | none => cases hkind
        | some c =>
          simp only at hkind
          split at hkind
          · cases hkind
          next hother =>
          obtain ⟨rfl, rfl⟩ := pure_eq_ok.mp hkind
          exact Or.inr ⟨rfl, gap, _, c, hgap, hblanks.trans (Cursor.passes_advance hahead), hagain,
            by simpa using hother⟩
      · cases hrest
  · rintro (⟨rfl, hpeek⟩ | ⟨rfl, gap, reached, b, hgap, hpasses, hpeek, hother⟩)
    · exact bind_eq_ok.mpr ⟨_, last, hpeek, rfl⟩
    · obtain ⟨middle, hblanks, hcomma⟩ := Cursor.passes_append.mp hpasses
      obtain ⟨hahead, rfl⟩ := Cursor.passes_singleton.mp hcomma
      refine bind_eq_ok.mpr ⟨some (byte ','), middle, peekPastBlanks_eq_ok.mpr
        ⟨gap, hgap, hblanks, hahead, by rintro _ ⟨⟩; decide⟩, ?_⟩
      refine (skip_bind _ _).trans (bind_eq_ok.mpr ⟨some b, last, hpeek, ?_⟩)
      simp only
      rw [if_neg (by simpa using hother)]
      rfl

/-- No string and no `null` begins like the end of an array. -/
theorem TextOrNull.ahead {text : Bytes} {found : Option String} (h : TextOrNull text found)
    {cursor last : Cursor} (hpasses : cursor.Passes text last) :
    ∃ b reached, peekPastBlanks cursor = .ok (some b) reached ∧ b ≠ byte ']' := by
  have hahead : ∃ gap b more, AllBlank gap ∧ text = gap ++ b :: more ∧ isBlankByte b = false ∧
      b ≠ byte ']' := by
    cases h with
    | @null gap hgap => exact ⟨gap, byte 'n', _, hgap, rfl, by decide⟩
    | @text gap spelled found hgap _ => exact ⟨gap, byte '"', spelled, hgap, rfl, by decide⟩
  obtain ⟨gap, b, more, hgap, rfl, hblank, hother⟩ := hahead
  obtain ⟨reached, hblanks, hlater⟩ := Cursor.passes_append.mp hpasses
  obtain ⟨hhead, -⟩ := Cursor.passes_cons.mp hlater
  exact ⟨b, reached, peekPastBlanks_eq_ok.mpr
    ⟨gap, hgap, hblanks, hhead, by rintro _ ⟨⟩; exact hblank⟩, hother⟩

end Json.Reader

namespace Header

open Json.Reader

/-- What has been found of the algorithm and of the key's identifier. -/
abbrev Seen := Option (Option String) × Option (Option String)

/-- What a member of a header is taken for. -/
inductive Step : String → Bytes → Seen → Seen → Prop where
  /-- The algorithm, which has not been given before. -/
  | algorithm {value : Bytes} {found : Option String} {kid : Option (Option String)}
      (text : TextOrNull value found) : Step "alg" value (none, kid) (some found, kid)
  /-- The identifier of the key, which has not been given before. -/
  | kid {value : Bytes} {found : Option String} {algorithm : Option (Option String)}
      (text : TextOrNull value found) : Step "kid" value (algorithm, none) (algorithm, some found)
  /-- Anything else does not matter. -/
  | other {name : String} {value : Bytes} {seen : Seen} (algorithm : name ≠ "alg")
      (kid : name ≠ "kid") : Step name value seen seen

/-- The value of a member that is read once is a string or `null` behind a colon. -/
theorem field_eq_ok {name : String} {seen found : Option (Option String)} {cursor last : Cursor} :
    field name seen readText cursor = .ok found last ↔
      seen = none ∧ ∃ gap value text, AllBlank gap ∧ TextOrNull value text ∧ found = some text ∧
        cursor.Passes (gap ++ byte ':' :: value) last := by
  rw [Reader.field_eq_ok]
  refine and_congr_right fun _ => ?_
  constructor
  · rintro ⟨gap, text, reached, hgap, hcolon, hread, rfl⟩
    obtain ⟨value, htext, hpasses⟩ := optional_string_eq_ok.mp hread
    refine ⟨gap, value, text, hgap, htext, rfl, ?_⟩
    simpa using hcolon.trans hpasses
  · rintro ⟨gap, value, text, hgap, htext, rfl, hpasses⟩
    rw [List.append_cons] at hpasses
    obtain ⟨reached, hcolon, hvalue⟩ := Cursor.passes_append.mp hpasses
    exact ⟨gap, text, reached, hgap, hcolon, optional_string_eq_ok.mpr ⟨value, htext, hvalue⟩, rfl⟩

theorem takes_readMember : Takes readMember Step where
  sound := by
    rintro name ⟨algorithm, kid⟩ next cursor last h
    unfold readMember at h
    split at h
    · next halg =>
      subst halg
      obtain ⟨found, _, hfield, hdone⟩ := Reader.bind_eq_ok.mp h
      obtain ⟨rfl, rfl⟩ := pure_eq_ok.mp hdone
      obtain ⟨rfl, gap, value, text, hgap, htext, rfl, hpasses⟩ := field_eq_ok.mp hfield
      exact ⟨gap, value, hgap, htext.written, .algorithm htext, hpasses⟩
    split at h
    · next hkid =>
      subst hkid
      obtain ⟨found, _, hfield, hdone⟩ := Reader.bind_eq_ok.mp h
      obtain ⟨rfl, rfl⟩ := pure_eq_ok.mp hdone
      obtain ⟨rfl, gap, value, text, hgap, htext, rfl, hpasses⟩ := field_eq_ok.mp hfield
      exact ⟨gap, value, hgap, htext.written, .kid htext, hpasses⟩
    · next halg hkid =>
      obtain ⟨_, _, hignored, hdone⟩ := Reader.bind_eq_ok.mp h
      obtain ⟨rfl, rfl⟩ := pure_eq_ok.mp hdone
      obtain ⟨gap, value, hgap, hvalue, hpasses⟩ := written_of_ignored hignored
      exact ⟨gap, value, hgap, hvalue, .other halg hkid, hpasses⟩
  complete := by
    intro name seen next gap value cursor last hgap hvalue hstep hpasses ends
    cases hstep with
    | @algorithm _ found kid htext =>
      have hfield : field "alg" none readText cursor = .ok (some found) last :=
        field_eq_ok.mpr ⟨rfl, gap, value, found, hgap, htext, rfl, hpasses⟩
      exact Reader.bind_eq_ok.mpr ⟨_, last, hfield, rfl⟩
    | @kid _ found algorithm htext =>
      have hfield : field "kid" none readText cursor = .ok (some found) last :=
        field_eq_ok.mpr ⟨rfl, gap, value, found, hgap, htext, rfl, hpasses⟩
      exact Reader.bind_eq_ok.mpr ⟨_, last, hfield, rfl⟩
    | other halg hkid =>
      unfold readMember
      rw [if_neg halg, if_neg hkid]
      exact Reader.bind_eq_ok.mpr ⟨(), last, ignored_of_written hgap hvalue hpasses ends, rfl⟩

/-- It does not matter whether the blanks in front have been passed over. -/
theorem readText_congr {cursor reached : Cursor} {ahead : Option UInt8}
    (h : peekPastBlanks cursor = .ok ahead reached) : readText reached = readText cursor :=
  bind_congr_of_eq ((peekPastBlanks_peekPastBlanks h).trans h.symm) _

/-- The first item of an array is read where a string or `null` stands. -/
theorem item?_first_eq_ok {cursor last : Cursor} {found : Option (Option String)} :
    item? true readText cursor = .ok found last ↔
      found = none ∧ peekPastBlanks cursor = .ok (some (byte ']')) last ∨
      ∃ value text, found = some text ∧ TextOrNull value text ∧ cursor.Passes value last := by
  constructor
  · intro h
    obtain ⟨more, reached, hahead, hrest⟩ := Reader.bind_eq_ok.mp h
    obtain ⟨b, hpeek, hmore⟩ := itemAhead_first_eq_ok.mp hahead
    split at hrest
    · obtain ⟨text, _, hread, hdone⟩ := Reader.bind_eq_ok.mp hrest
      obtain ⟨rfl, rfl⟩ := pure_eq_ok.mp hdone
      obtain ⟨value, htext, hpasses⟩ :=
        optional_string_eq_ok.mp ((readText_congr hpeek).symm.trans hread)
      exact Or.inr ⟨value, text, rfl, htext, hpasses⟩
    · next hnone =>
      obtain ⟨rfl, rfl⟩ := pure_eq_ok.mp hrest
      obtain rfl : b = byte ']' := by simpa [hnone] using hmore
      exact Or.inl ⟨rfl, hpeek⟩
  · rintro (⟨rfl, hpeek⟩ | ⟨value, text, rfl, htext, hpasses⟩)
    · exact Reader.bind_eq_ok.mpr ⟨false, last, itemAhead_first_eq_ok.mpr ⟨_, hpeek, by simp⟩, rfl⟩
    · obtain ⟨b, reached, hpeek, hother⟩ := htext.ahead hpasses
      refine Reader.bind_eq_ok.mpr
        ⟨true, reached, itemAhead_first_eq_ok.mpr ⟨b, hpeek, by simp [hother]⟩, ?_⟩
      have hread : readText reached = .ok text last :=
        (readText_congr hpeek).trans (optional_string_eq_ok.mpr ⟨value, htext, hpasses⟩)
      rw [if_pos rfl]
      exact Reader.bind_eq_ok.mpr ⟨text, last, hread, rfl⟩

/-- A further item is read where a string or `null` stands behind a comma. -/
theorem item?_next_eq_ok {cursor last : Cursor} {found : Option (Option String)} :
    item? false readText cursor = .ok found last ↔
      found = none ∧ peekPastBlanks cursor = .ok (some (byte ']')) last ∨
      ∃ gap value text, found = some text ∧ AllBlank gap ∧ TextOrNull value text ∧
        cursor.Passes (gap ++ [byte ','] ++ value) last := by
  constructor
  · intro h
    obtain ⟨more, reached, hahead, hrest⟩ := Reader.bind_eq_ok.mp h
    rcases itemAhead_next_eq_ok.mp hahead with
      ⟨rfl, hpeek⟩ | ⟨rfl, gap, middle, b, hgap, hcomma, hpeek, -⟩
    · obtain ⟨rfl, rfl⟩ := pure_eq_ok.mp hrest
      exact Or.inl ⟨rfl, hpeek⟩
    · obtain ⟨text, _, hread, hdone⟩ := Reader.bind_eq_ok.mp hrest
      obtain ⟨rfl, rfl⟩ := pure_eq_ok.mp hdone
      obtain ⟨value, htext, hpasses⟩ :=
        optional_string_eq_ok.mp ((readText_congr hpeek).symm.trans hread)
      exact Or.inr ⟨gap, value, text, rfl, hgap, htext, hcomma.trans hpasses⟩
  · rintro (⟨rfl, hpeek⟩ | ⟨gap, value, text, rfl, hgap, htext, hpasses⟩)
    · exact Reader.bind_eq_ok.mpr ⟨false, last, itemAhead_next_eq_ok.mpr (Or.inl ⟨rfl, hpeek⟩), rfl⟩
    · obtain ⟨middle, hcomma, hvalue⟩ := Cursor.passes_append.mp hpasses
      obtain ⟨b, reached, hpeek, hother⟩ := htext.ahead hvalue
      have hread : readText reached = .ok text last :=
        (readText_congr hpeek).trans (optional_string_eq_ok.mpr ⟨value, htext, hvalue⟩)
      refine Reader.bind_eq_ok.mpr ⟨true, reached, itemAhead_next_eq_ok.mpr
        (Or.inr ⟨rfl, gap, middle, b, hgap, hcomma, hpeek, hother⟩), ?_⟩
      rw [if_pos rfl]
      exact Reader.bind_eq_ok.mpr ⟨text, last, hread, rfl⟩

/-- The text of an array behind its opening bracket that is taken for a header: at most two strings
or `null`s. -/
inductive SequenceText : Bytes → Header → Prop where
  /-- No item. -/
  | none {gap : Bytes} (blank : AllBlank gap) : SequenceText (gap ++ [byte ']']) ⟨none, none⟩
  /-- The algorithm. -/
  | one {first gap : Bytes} {algorithm : Option String} (first_text : TextOrNull first algorithm)
      (blank : AllBlank gap) : SequenceText (first ++ (gap ++ [byte ']'])) ⟨algorithm, .none⟩
  /-- The algorithm and the identifier of the key. -/
  | two {first gap second trail : Bytes} {algorithm kid : Option String}
      (first_text : TextOrNull first algorithm) (gap_blank : AllBlank gap)
      (second_text : TextOrNull second kid) (trail_blank : AllBlank trail) :
      SequenceText (first ++ ((gap ++ [byte ','] ++ second) ++ (trail ++ [byte ']'])))
        ⟨algorithm, kid⟩

/-- The end of an array is passed over with the blanks before it. -/
theorem closeList_eq_ok {cursor last : Cursor} :
    closeList cursor = .ok () last ↔
      ∃ gap, AllBlank gap ∧ cursor.Passes (gap ++ [byte ']']) last := by
  rw [closeList, peekPastBlanks_bind_eq_ok nofun]
  constructor
  · rintro ⟨gap, b, reached, hgap, hpasses, hahead, -, hrest⟩
    simp only at hrest
    split at hrest
    · next hb =>
      obtain rfl := eq_of_beq hb
      obtain rfl := skip_eq_ok.mp hrest
      exact ⟨gap, hgap, hpasses.trans (Cursor.passes_advance hahead)⟩
    split at hrest
    · rw [skip_bind] at hrest
      obtain ⟨_, _, _, hfail⟩ := Reader.bind_eq_ok.mp hrest
      split at hfail <;> cases hfail
    · cases hrest
  · rintro ⟨gap, hgap, hpasses⟩
    obtain ⟨reached, hblanks, hclose⟩ := Cursor.passes_append.mp hpasses
    obtain ⟨hahead, rfl⟩ := Cursor.passes_singleton.mp hclose
    exact ⟨gap, _, reached, hgap, hblanks, hahead, by decide, rfl⟩

/-- Where the end of an array lies ahead no item is found, and the array ends. -/
theorem exists_end_iff {cursor last : Cursor} :
    (∃ reached, peekPastBlanks cursor = .ok (some (byte ']')) reached ∧
        closeList reached = .ok () last) ↔
      ∃ gap, AllBlank gap ∧ cursor.Passes (gap ++ [byte ']']) last := by
  rw [← closeList_eq_ok]
  have hagain : ∀ {reached}, peekPastBlanks cursor = .ok (some (byte ']')) reached →
      closeList reached = closeList cursor :=
    fun hpeek => bind_congr_of_eq ((peekPastBlanks_peekPastBlanks hpeek).trans hpeek.symm) _
  constructor
  · rintro ⟨reached, hpeek, hclose⟩
    exact (hagain hpeek).symm.trans hclose
  · intro h
    obtain ⟨gap, hgap, hpasses⟩ := closeList_eq_ok.mp h
    obtain ⟨reached, hblanks, hclose⟩ := Cursor.passes_append.mp hpasses
    obtain ⟨hahead, -⟩ := Cursor.passes_singleton.mp hclose
    have hpeek : peekPastBlanks cursor = .ok (some (byte ']')) reached :=
      peekPastBlanks_eq_ok.mpr ⟨gap, hgap, hblanks, hahead, by rintro _ ⟨⟩; decide⟩
    exact ⟨reached, hpeek, (hagain hpeek).trans h⟩

/-- An array is taken for a header where at most two strings or `null`s stand in it. -/
theorem sequence_eq_ok {cursor last : Cursor} {found : Header} :
    (∃ middle, readSequence cursor = .ok found middle ∧ closeList middle = .ok () last) ↔
      ∃ text, SequenceText text found ∧ cursor.Passes text last := by
  constructor
  · rintro ⟨middle, hread, hclose⟩
    obtain ⟨first, reached, hfirst, hrest⟩ := Reader.bind_eq_ok.mp hread
    rcases item?_first_eq_ok.mp hfirst with ⟨rfl, hpeek⟩ | ⟨value, algorithm, rfl, htext, hpasses⟩
    · obtain ⟨rfl, rfl⟩ := pure_eq_ok.mp hrest
      obtain ⟨gap, hgap, hend⟩ := exists_end_iff.mp ⟨_, hpeek, hclose⟩
      exact ⟨_, .none hgap, hend⟩
    obtain ⟨second, behind, hsecond, hdone⟩ := Reader.bind_eq_ok.mp hrest
    rcases item?_next_eq_ok.mp hsecond with
      ⟨rfl, hpeek⟩ | ⟨gap, other, kid, rfl, hgap, hkid, hlater⟩
    · obtain ⟨rfl, rfl⟩ := pure_eq_ok.mp hdone
      obtain ⟨gap, hgap, hend⟩ := exists_end_iff.mp ⟨_, hpeek, hclose⟩
      exact ⟨_, .one htext hgap, hpasses.trans hend⟩
    · obtain ⟨rfl, rfl⟩ := pure_eq_ok.mp hdone
      obtain ⟨trail, htrail, hend⟩ := closeList_eq_ok.mp hclose
      exact ⟨_, .two htext hgap hkid htrail, hpasses.trans (hlater.trans hend)⟩
  · rintro ⟨text, htext, hpasses⟩
    cases htext with
    | none hgap =>
      obtain ⟨middle, hpeek, hclose⟩ := exists_end_iff.mpr ⟨_, hgap, hpasses⟩
      have hfirst : item? true readText cursor = .ok none middle :=
        item?_first_eq_ok.mpr (Or.inl ⟨rfl, hpeek⟩)
      exact ⟨middle, Reader.bind_eq_ok.mpr ⟨none, middle, hfirst, rfl⟩, hclose⟩
    | @one first gap algorithm hfirst hgap =>
      obtain ⟨reached, hvalue, hend⟩ := Cursor.passes_append.mp hpasses
      obtain ⟨middle, hpeek, hclose⟩ := exists_end_iff.mpr ⟨_, hgap, hend⟩
      have hitem : item? true readText cursor = .ok (some algorithm) reached :=
        item?_first_eq_ok.mpr (Or.inr ⟨first, algorithm, rfl, hfirst, hvalue⟩)
      have hnone : item? false readText reached = .ok none middle :=
        item?_next_eq_ok.mpr (Or.inl ⟨rfl, hpeek⟩)
      exact ⟨middle, Reader.bind_eq_ok.mpr ⟨_, reached, hitem,
        Reader.bind_eq_ok.mpr ⟨none, middle, hnone, rfl⟩⟩, hclose⟩
    | @two first gap second trail algorithm kid hfirst hgap hsecond htrail =>
      obtain ⟨reached, hvalue, hrest⟩ := Cursor.passes_append.mp hpasses
      obtain ⟨middle, hother, hend⟩ := Cursor.passes_append.mp hrest
      have hitem : item? true readText cursor = .ok (some algorithm) reached :=
        item?_first_eq_ok.mpr (Or.inr ⟨first, algorithm, rfl, hfirst, hvalue⟩)
      have hagain : item? false readText reached = .ok (some kid) middle :=
        item?_next_eq_ok.mpr (Or.inr ⟨gap, second, kid, rfl, hgap, hsecond, hother⟩)
      exact ⟨middle, Reader.bind_eq_ok.mpr ⟨_, reached, hitem,
        Reader.bind_eq_ok.mpr ⟨_, middle, hagain, rfl⟩⟩, closeList_eq_ok.mpr ⟨trail, htrail, hend⟩⟩

/-- The header of an object: its members, of which the algorithm and the identifier of the key are
given at most once, each as a string or `null`. -/
def ObjectHeader (text : Bytes) (header : Header) : Prop :=
  ∃ members seen, ObjectText text members ∧ Leads Step members (none, none) seen ∧
    header = complete seen

/-- The header of an array: its items in place of the two members. -/
def ArrayHeader (text : Bytes) (header : Header) : Prop :=
  ∃ lead inner trail, AllBlank lead ∧ SequenceText inner header ∧ AllBlank trail ∧
    text = lead ++ byte '[' :: (inner ++ trail)

/-- The first look at a header accepts an object or an array, and nothing else. -/
theorem ofBytes_eq_ok {bytes : Bytes} {header : Header} :
    ofBytes bytes = .ok header ↔ ObjectHeader bytes header ∨ ArrayHeader bytes header := by
  rw [ofBytes, readWith_record_eq_ok takes_readMember, or_comm]
  refine or_congr ?_ ?_
  · simp only [Except.ok.injEq, ObjectHeader, eq_comm]
  constructor
  · rintro ⟨lead, opened, middle, last, hlead, hpasses, hread, hclose, htrail⟩
    obtain ⟨inner, hinner, hlater⟩ := sequence_eq_ok.mp ⟨middle, hread, hclose⟩
    refine ⟨lead, inner, last.rest, hlead, hinner, htrail, ?_⟩
    exact (hpasses.trans hlater).rest.trans (by simp)
  · rintro ⟨lead, inner, trail, hlead, hinner, htrail, rfl⟩
    obtain ⟨opened, hopened, hpasses⟩ :=
      Cursor.exists_passes (lead ++ [byte '[']) (inner ++ trail) ⟨1, 0⟩
    obtain ⟨rest, place⟩ := opened
    obtain rfl : rest = inner ++ trail := hopened
    obtain ⟨last, hlast, hlater⟩ := Cursor.exists_passes inner trail place
    obtain ⟨middle, hread, hclose⟩ := sequence_eq_ok.mpr ⟨inner, hinner, hlater⟩
    refine ⟨lead, _, middle, last, hlead, ?_, hread, hclose, hlast ▸ htrail⟩
    rwa [List.append_assoc, List.singleton_append] at hpasses

end Header

end RelyingParty
