import RelyingParty.Proofs.Json.Grammar

/-!
# The texts of objects

An object is written as its members with commas between them, each with a spelled name, a colon and
the text of a value. A reader that takes one member after another succeeds exactly on such a text,
if what it does with each member is known; the members then lead it from its first state to its last.
-/

namespace RelyingParty.Json

open RelyingParty.Text

namespace Reader

/-- What stands in front of a member: blanks, and a comma between them unless it is the first. -/
inductive Lead : Bool → Bytes → Prop where
  /-- In front of the first member. -/
  | first {gap : Bytes} (blank : AllBlank gap) : Lead true gap
  /-- In front of a further member. -/
  | next {before after : Bytes} (before_blank : AllBlank before) (after_blank : AllBlank after) :
      Lead false (before ++ byte ',' :: after)

/-- The text of the members of an object, from the first on or behind another one, and each of them
as its name and the text of its value. -/
inductive Contents : Bool → Bytes → List (String × Bytes) → Prop where
  /-- No further member. -/
  | done {first : Bool} {gap : Bytes} (blank : AllBlank gap) : Contents first gap []
  /-- A member, and those behind it. -/
  | member {first : Bool} {lead spelled gap value more : Bytes} {name : String}
      {rest : List (String × Bytes)} (front : Lead first lead)
      (name_spelled : SpelledText spelled name) (gap_blank : AllBlank gap) (value_written : Written .value value)
      (later : Contents false more rest) :
      Contents first (lead ++ byte '"' :: (spelled ++ (gap ++ byte ':' :: (value ++ more))))
        ((name, value) :: rest)

/-- The text of a member with blanks around it, and its name and the text of its value. -/
inductive MemberText : Bytes → String × Bytes → Prop where
  /-- The name, a colon and the value. -/
  | intro {lead spelled gap value trail : Bytes} {name : String} (lead_blank : AllBlank lead)
      (name_spelled : SpelledText spelled name) (gap_blank : AllBlank gap)
      (value_written : Written .value value) (trail_blank : AllBlank trail) :
      MemberText (lead ++ byte '"' :: (spelled ++ (gap ++ byte ':' :: (value ++ trail))))
        (name, value)

/-- Members with commas in front of them stand behind another one. -/
theorem contents_behind {texts : List Bytes} {members : List (String × Bytes)}
    (h : List.Forall₂ MemberText texts members) {gap : Bytes} (hgap : AllBlank gap) :
    Contents false (gap ++ texts.flatMap (byte ',' :: ·)) members := by
  induction h generalizing gap with
  | nil =>
    rw [List.flatMap_nil, List.append_nil]
    exact .done hgap
  | cons htext _ ih =>
    cases htext with
    | intro hlead hspelled hcolon hvalue htrail =>
      have hcontents := Contents.member (.next hgap hlead) hspelled hcolon hvalue (ih htrail)
      simpa only [List.flatMap_cons, List.append_assoc, List.cons_append] using hcontents

/-- Every text but the first has a comma in front of it. -/
theorem intercalate_cons (text : Bytes) (texts : List Bytes) :
    [byte ','].intercalate (text :: texts) = text ++ texts.flatMap (byte ',' :: ·) := by
  induction texts generalizing text with
  | nil => simp [List.intercalate]
  | cons next texts ih =>
    have hnext := ih next
    simp only [List.intercalate, List.intersperse_cons_cons, List.flatten_cons] at hnext ⊢
    rw [hnext, List.flatMap_cons]
    rfl

/-- Members with commas between them are the content of an object. -/
theorem contents_of_members {texts : List Bytes} {members : List (String × Bytes)}
    (h : List.Forall₂ MemberText texts members) :
    Contents true ([byte ','].intercalate texts) members := by
  cases h with
  | nil => exact .done allBlank_nil
  | cons htext hrest =>
    rw [intercalate_cons]
    cases htext with
    | intro hlead hspelled hcolon hvalue htrail =>
      have hcontents :=
        Contents.member (.first hlead) hspelled hcolon hvalue (contents_behind hrest htrail)
      simpa only [List.append_assoc, List.cons_append] using hcontents

/-- The content of an object and its end are what follows its opening brace, or a member. -/
theorem Contents.written {first : Bool} {text : Bytes} {members : List (String × Bytes)}
    (h : Contents first text members) :
    Written (if first then .opened .object else .more .object) (text ++ [byte '\x7d']) := by
  induction h with
  | @done first gap hgap =>
    cases first with
    | true => exact .blanks hgap (.empty .object)
    | false => exact .blanks hgap (.last .object)
  | member hlead hspelled hgap hvalue _ ih =>
    have hentry : Written Frame.object.entry _ :=
      .member (.of_spelled hspelled) hgap hvalue
    cases hlead with
    | first hblank =>
      have hopened := Written.blanks hblank (.first hentry ih)
      change Written (.opened .object) _
      simpa only [List.append_assoc, List.cons_append] using hopened
    | next hbefore hafter =>
      have hmore := Written.blanks hbefore (.next (.blanks hafter hentry) ih)
      change Written (.more .object) _
      simpa only [List.append_assoc, List.cons_append] using hmore

/-- An object with its braces is a value. -/
theorem Contents.written_value {text : Bytes} {members : List (String × Bytes)}
    (h : Contents true text members) : Written .value (byte '{' :: (text ++ [byte '\x7d'])) :=
  .container .object h.written

variable {σ α : Type}

/-- What members do to a state, one after the other. -/
inductive Leads (Step : String → Bytes → σ → σ → Prop) : List (String × Bytes) → σ → σ → Prop where
  /-- Nothing is done. -/
  | nil (state : σ) : Leads Step [] state state
  /-- The first member is followed by the others. -/
  | cons {name : String} {value : Bytes} {rest : List (String × Bytes)} {state next last : σ}
      (step : Step name value state next) (later : Leads Step rest next last) :
      Leads Step ((name, value) :: rest) state last

/-- A reader of members reads a colon and the text of a value wherever it can change its state by the
name and that text. -/
structure Performs (member : String → σ → Reader σ) (Step : String → Bytes → σ → σ → Prop) :
    Prop where
  /-- It does so wherever it can. -/
  complete : ∀ {name state next gap value} {cursor last : Cursor}, AllBlank gap →
    Written .value value → Step name value state next →
    cursor.Passes (gap ++ byte ':' :: value) last → Numeral.Ends last.rest →
    member name state cursor = .ok next last

/-- What a reader of members does is to read a colon and the text of a value, and to change its
state by the name and that text. -/
structure Takes (member : String → σ → Reader σ) (Step : String → Bytes → σ → σ → Prop) : Prop
    extends Performs member Step where
  /-- It does nothing else. -/
  sound : ∀ {name state next} {cursor last : Cursor}, member name state cursor = .ok next last →
    ∃ gap value, AllBlank gap ∧ Written .value value ∧ Step name value state next ∧
      cursor.Passes (gap ++ byte ':' :: value) last

/-- Looks for the next member behind a comma. -/
theorem nextMember_eq_ok {cursor last : Cursor} {more : Bool} :
    (do match ← peekPastBlanks with
        | none => failAhead .endInValue
        | some c =>
          if c == byte '"' then pure true
          else if c == byte '\x7d' then failAhead .trailingComma
          else failAhead .nameNotString : Reader Bool) cursor = .ok more last ↔
      more = true ∧ ∃ gap, AllBlank gap ∧ cursor.Passes gap last ∧
        last.rest.head? = some (byte '"') := by
  rw [peekPastBlanks_bind_eq_ok nofun]
  constructor
  · rintro ⟨gap, c, reached, hgap, hpasses, hahead, -, hrest⟩
    simp only at hrest
    split at hrest
    · next hc =>
      obtain rfl := eq_of_beq hc
      obtain ⟨rfl, rfl⟩ := pure_eq_ok.mp hrest
      exact ⟨rfl, gap, hgap, hpasses, hahead⟩
    · split at hrest <;> cases hrest
  · rintro ⟨rfl, gap, hgap, hpasses, hahead⟩
    exact ⟨gap, _, last, hgap, hpasses, hahead, by decide, rfl⟩

/-- Another member lies ahead, or the end of the object. -/
theorem memberAhead_eq_ok {first more : Bool} {cursor last : Cursor} :
    memberAhead first cursor = .ok more last ↔
      more = true ∧ (∃ lead, Lead first lead ∧ cursor.Passes lead last ∧
        last.rest.head? = some (byte '"')) ∨
      more = false ∧ ∃ gap, AllBlank gap ∧ cursor.Passes gap last ∧
        last.rest.head? = some (byte '\x7d') := by
  rw [memberAhead, peekPastBlanks_bind_eq_ok nofun]
  constructor
  · rintro ⟨gap, b, reached, hgap, hpasses, hahead, -, hrest⟩
    simp only at hrest
    split at hrest
    · next hb =>
      obtain rfl := eq_of_beq hb
      obtain ⟨rfl, rfl⟩ := pure_eq_ok.mp hrest
      exact Or.inr ⟨rfl, gap, hgap, hpasses, hahead⟩
    split at hrest
    · next hfirst =>
      subst hfirst
      split at hrest
      · next hb =>
        obtain rfl := eq_of_beq hb
        obtain ⟨rfl, rfl⟩ := pure_eq_ok.mp hrest
        exact Or.inl ⟨rfl, gap, .first hgap, hpasses, hahead⟩
      · cases hrest
    next hfirst =>
    obtain rfl := Bool.eq_false_iff.mpr hfirst
    split at hrest
    · next hb =>
      obtain rfl := eq_of_beq hb
      rw [skip_bind] at hrest
      obtain ⟨rfl, after, hafter, hlater, hquote⟩ := nextMember_eq_ok.mp hrest
      exact Or.inl ⟨rfl, _, .next hgap hafter,
        hpasses.trans (Cursor.passes_cons.mpr ⟨hahead, hlater⟩), hquote⟩
    · cases hrest
  · rintro (⟨rfl, lead, hlead, hpasses, hquote⟩ | ⟨rfl, gap, hgap, hpasses, hend⟩)
    · cases hlead with
      | first hgap => exact ⟨lead, _, last, hgap, hpasses, hquote, by decide, rfl⟩
      | @next before after hbefore hafter =>
        obtain ⟨reached, hblanks, hcomma⟩ := Cursor.passes_append.mp hpasses
        obtain ⟨hahead, hlater⟩ := Cursor.passes_cons.mp hcomma
        refine ⟨before, _, reached, hbefore, hblanks, hahead, by decide, ?_⟩
        exact (skip_bind _ _).trans (nextMember_eq_ok.mpr ⟨rfl, after, hafter, hlater, hquote⟩)
    · exact ⟨gap, _, last, hgap, hpasses, hend, by decide, rfl⟩

theorem memberAhead_eq_true {first : Bool} {cursor last : Cursor} :
    memberAhead first cursor = .ok true last ↔
      ∃ lead, Lead first lead ∧ cursor.Passes lead last ∧ last.rest.head? = some (byte '"') := by
  simp [memberAhead_eq_ok]

theorem memberAhead_eq_false {first : Bool} {cursor last : Cursor} :
    memberAhead first cursor = .ok false last ↔
      ∃ gap, AllBlank gap ∧ cursor.Passes gap last ∧ last.rest.head? = some (byte '\x7d') := by
  simp [memberAhead_eq_ok]

theorem closeObject_of_head? {cursor : Cursor} (h : cursor.rest.head? = some (byte '\x7d')) :
    closeObject cursor = .ok () cursor.advance :=
  bind_of_ok (peekPastBlanks_of_head? h (by decide)) _

/-- The value of a member that does not matter is passed over behind its colon. -/
theorem written_of_ignored {cursor last : Cursor} (h : ignored cursor = .ok () last) :
    ∃ gap value, AllBlank gap ∧ Written .value value ∧
      cursor.Passes (gap ++ byte ':' :: value) last := by
  obtain ⟨_, reached, hcolon, hvalue⟩ := bind_eq_ok.mp h
  obtain ⟨gap, hgap, hgapPasses⟩ := colon_eq_ok.mp hcolon
  obtain ⟨value, hwritten, hpasses⟩ := written_of_skipValue hvalue
  refine ⟨gap, value, hgap, hwritten, ?_⟩
  simpa using hgapPasses.trans hpasses

theorem ignored_of_written {gap value : Bytes} (hgap : AllBlank gap) (hvalue : Written .value value)
    {cursor last : Cursor} (hpasses : cursor.Passes (gap ++ byte ':' :: value) last)
    (ends : Numeral.Ends last.rest) : ignored cursor = .ok () last := by
  have hsplit : gap ++ byte ':' :: value = (gap ++ [byte ':']) ++ value := by simp
  obtain ⟨reached, hcolon, hlater⟩ := Cursor.passes_append.mp (hsplit ▸ hpasses)
  exact bind_eq_ok.mpr ⟨(), reached, colon_eq_ok.mpr ⟨gap, hgap, hcolon⟩,
    skipValue_of_written hvalue hlater ends⟩

theorem contents_of_membersFrom {member : String → σ → Reader σ}
    {Step : String → Bytes → σ → σ → Prop} (takes : Takes member Step) {bound : Nat} {first : Bool}
    {state found : σ} {cursor last : Cursor}
    (h : membersFrom member bound first state cursor = .ok found last) :
    ∃ text members, Contents first text members ∧ Leads Step members state found ∧
      cursor.Passes text last ∧ last.rest.head? = some (byte '\x7d') := by
  induction bound generalizing first state cursor with
  | zero => cases h
  | succ bound ih =>
    rcases membersFrom_succ_eq_ok.mp h with
      ⟨hahead, rfl⟩ | ⟨reached, name, named, next, behind, hahead, hname, hstep, hlater⟩
    · obtain ⟨gap, hgap, hpasses, hend⟩ := memberAhead_eq_false.mp hahead
      exact ⟨gap, [], .done hgap, .nil _, hpasses, hend⟩
    · obtain ⟨lead, hlead, hleadPasses, hquote⟩ := memberAhead_eq_true.mp hahead
      obtain ⟨spelled, hspelled, hspelledPasses⟩ := stringContent_eq_ok.mp hname
      obtain ⟨gap, value, hgap, hvalue, hnext, hvaluePasses⟩ := takes.sound hstep
      obtain ⟨text, members, htext, hleads, hpasses, hend⟩ := ih hlater
      refine ⟨_, _, .member hlead hspelled hgap hvalue htext, .cons hnext hleads, ?_, hend⟩
      have hall := hleadPasses.trans (Cursor.passes_cons.mpr
        ⟨hquote, hspelledPasses.trans (hvaluePasses.trans hpasses)⟩)
      simpa only [List.append_assoc, List.cons_append] using hall

/-- What follows a member does not continue a number. -/
theorem Contents.ends {text : Bytes} {members : List (String × Bytes)}
    (h : Contents false text members) {cursor last : Cursor} (hpasses : cursor.Passes text last)
    (hend : last.rest.head? = some (byte '\x7d')) : Numeral.Ends cursor.rest := by
  have hblank : ∀ {gap after : Bytes} {b : UInt8}, AllBlank gap → Stops b →
      Numeral.Ends (gap ++ b :: after) := by
    rintro gap after b hgap hb c hc
    cases gap with
    | nil =>
      obtain rfl := Option.some.inj hc
      exact hb
    | cons first gap =>
      obtain rfl := Option.some.inj hc
      exact stops_of_blank (allBlank_cons.mp hgap).1
  rw [hpasses.rest]
  cases h with
  | done hgap =>
    obtain ⟨rest, hrest⟩ := List.head?_eq_some_iff.mp hend
    exact hrest ▸ hblank hgap (by decide)
  | member hlead =>
    cases hlead with
    | next hbefore _ =>
      rw [List.append_assoc, List.append_assoc]
      exact hblank hbefore (by decide)

theorem membersFrom_of_contents {member : String → σ → Reader σ}
    {Step : String → Bytes → σ → σ → Prop} (performs : Performs member Step) {first : Bool}
    {text : Bytes} {members : List (String × Bytes)} (h : Contents first text members) {bound : Nat}
    {state found : σ} (hleads : Leads Step members state found) {cursor last : Cursor}
    (hpasses : cursor.Passes text last) (hend : last.rest.head? = some (byte '\x7d'))
    (enough : text.length < bound) :
    membersFrom member bound first state cursor = .ok found last := by
  induction h generalizing bound state cursor with
  | @done first gap hgap =>
    obtain ⟨bound, rfl⟩ := Nat.exists_eq_succ_of_ne_zero (Nat.ne_zero_of_lt enough)
    cases hleads
    exact membersFrom_succ_eq_ok.mpr
      (Or.inl ⟨memberAhead_eq_false.mpr ⟨gap, hgap, hpasses, hend⟩, rfl⟩)
  | @member first lead spelled gap value more name rest hlead hspelled hgap hvalue hmore ih =>
    obtain ⟨bound, rfl⟩ := Nat.exists_eq_succ_of_ne_zero (Nat.ne_zero_of_lt enough)
    cases hleads with
    | cons hstep hleads =>
      obtain ⟨opened, hleadPasses, hquoted⟩ := Cursor.passes_append.mp hpasses
      obtain ⟨hquote, hquoted⟩ := Cursor.passes_cons.mp hquoted
      obtain ⟨named, hspelledPasses, hcolon⟩ := Cursor.passes_append.mp hquoted
      have hsplit : gap ++ byte ':' :: (value ++ more) = (gap ++ byte ':' :: value) ++ more := by
        simp
      obtain ⟨behind, hvaluePasses, hlater⟩ := Cursor.passes_append.mp (hsplit ▸ hcolon)
      have hread := performs.complete hgap hvalue hstep hvaluePasses (hmore.ends hlater hend)
      exact membersFrom_succ_eq_ok.mpr (Or.inr ⟨opened, name, named, _, behind,
        memberAhead_eq_true.mpr ⟨lead, hlead, hleadPasses, hquote⟩,
        stringContent_eq_ok.mpr ⟨spelled, hspelled, hspelledPasses⟩, hread,
        ih hleads hlater (by grind)⟩)

theorem bind_ne_ok {β : Type} {read : Reader β} {after : β → Reader α} {last : Cursor} {value : α}
    (h : ∀ found reached, after found reached ≠ .ok value last) (cursor : Cursor) :
    (read >>= after) cursor ≠ .ok value last := by
  intro hread
  obtain ⟨found, reached, -, hafter⟩ := bind_eq_ok.mp hread
  exact h found reached hafter

/-- A value that is not wanted is never read. -/
theorem mismatch_ne_ok (wanted : String) (cursor last : Cursor) (value : α) :
    mismatch wanted cursor ≠ .ok value last := by
  intro h
  obtain ⟨b, -, hrest⟩ := (peek_bind_eq_ok nofun).mp (placed_eq_ok.mp h)
  simp only at hrest
  split at hrest
  · exact bind_ne_ok (fun _ => bind_ne_ok nofun) cursor hrest
  split at hrest
  · exact bind_ne_ok (fun _ => bind_ne_ok nofun) cursor hrest
  split at hrest
  · exact bind_ne_ok (fun _ => bind_ne_ok nofun) cursor hrest
  split at hrest
  · exact bind_ne_ok nofun cursor hrest
  split at hrest
  · exact bind_ne_ok (fun _ => bind_ne_ok nofun) cursor hrest
  split at hrest
  · cases hrest
  split at hrest
  · cases hrest
  · cases hrest

/-- A value that begins with a certain byte is read only where this byte lies ahead. -/
theorem begun_eq_ok {wanted : String} {begin : UInt8} {rest : Reader α} {cursor last : Cursor}
    {value : α} :
    (do
      match ← peekPastBlanks with
      | none => failAhead .endInValue
      | some b => if b == begin then rest else mismatch wanted : Reader α) cursor =
        .ok value last ↔
      ∃ reached, peekPastBlanks cursor = .ok (some begin) reached ∧
        rest reached = .ok value last := by
  constructor
  · intro h
    obtain ⟨ahead, reached, hahead, hrest⟩ := bind_eq_ok.mp h
    cases ahead with
    | none => cases hrest
    | some b =>
      simp only at hrest
      split at hrest
      · next hbegin => exact ⟨reached, eq_of_beq hbegin ▸ hahead, hrest⟩
      · exact absurd hrest (mismatch_ne_ok wanted _ _ _)
  · rintro ⟨reached, hahead, hrest⟩
    refine bind_eq_ok.mpr ⟨_, reached, hahead, ?_⟩
    simpa only [beq_self_eq_true, if_true] using hrest

/-- A string is read behind a quote. -/
theorem string_iff_quote {wanted : String} {cursor last : Cursor} {found : String} :
    string wanted cursor = .ok found last ↔
      ∃ reached, peekPastBlanks cursor = .ok (some (byte '"')) reached ∧
        stringContent reached.advance = .ok found last :=
  begun_eq_ok

/-- An array is read behind a bracket, up to the next one. -/
theorem list_iff_bracket {item : Reader α} {cursor last : Cursor} {found : List α} :
    list item cursor = .ok found last ↔
      ∃ reached middle, peekPastBlanks cursor = .ok (some (byte '[')) reached ∧
        items item reached.advance = .ok found middle ∧ closeList middle = .ok () last := by
  refine begun_eq_ok.trans (exists_congr fun reached => ?_)
  rw [skip_bind, placed_eq_ok, enclosed_eq_ok, exists_and_left]

/-- An object is read behind a brace, up to the next one, if its members lead to a state from which
the value can be made. -/
theorem object_iff_brace {wanted : String} {start : σ} {member : String → σ → Reader σ}
    {complete : σ → Except Fault α} {cursor last : Cursor} {value : α} :
    object wanted start member complete cursor = .ok value last ↔
      ∃ reached middle state, peekPastBlanks cursor = .ok (some (byte '{')) reached ∧
        members member start reached.advance = .ok state middle ∧
        closeObject middle = .ok () last ∧ complete state = .ok value := by
  refine begun_eq_ok.trans ⟨?_, ?_⟩
  · rintro ⟨reached, hahead, hrest⟩
    rw [skip_bind] at hrest
    obtain ⟨middle, hcontent, hclose⟩ := enclosed_eq_ok.mp (placed_eq_ok.mp hrest)
    obtain ⟨state, behind, hmembers, hcomplete⟩ := bind_eq_ok.mp hcontent
    cases hvalue : complete state with
    | error fault =>
      rw [hvalue] at hcomplete
      cases hcomplete
    | ok other =>
      rw [hvalue] at hcomplete
      obtain ⟨rfl, rfl⟩ := pure_eq_ok.mp hcomplete
      exact ⟨reached, behind, state, hahead, hmembers, hclose, hvalue⟩
  · rintro ⟨reached, middle, state, hahead, hmembers, hclose, hcomplete⟩
    refine ⟨reached, hahead, (skip_bind _ _).trans ?_⟩
    refine placed_eq_ok.mpr (enclosed_eq_ok.mpr ⟨middle, ?_, hclose⟩)
    refine bind_eq_ok.mpr ⟨state, middle, hmembers, ?_⟩
    rw [hcomplete]
    rfl

/-- An object is read where its members lead to a state from which the value can be made. -/
theorem object_of_contents {wanted : String} {start : σ} {member : String → σ → Reader σ}
    {complete : σ → Except Fault α} {Step : String → Bytes → σ → σ → Prop}
    (performs : Performs member Step) {lead text : Bytes} {members : List (String × Bytes)}
    {state : σ} {value : α} (hlead : AllBlank lead) (htext : Contents true text members)
    (hleads : Leads Step members start state) (hcomplete : complete state = .ok value)
    {cursor last : Cursor}
    (hpasses : cursor.Passes (lead ++ byte '{' :: (text ++ [byte '\x7d'])) last) :
    object wanted start member complete cursor = .ok value last := by
  obtain ⟨reached, hblanks, hobject⟩ := Cursor.passes_append.mp hpasses
  obtain ⟨hahead, hinner⟩ := Cursor.passes_cons.mp hobject
  obtain ⟨middle, hcontent, hclose⟩ := Cursor.passes_append.mp hinner
  obtain ⟨hend, rfl⟩ := Cursor.passes_singleton.mp hclose
  have henough : text.length < reached.advance.rest.length + 1 := by
    rw [hcontent.length]
    omega
  have hmembers : Reader.members member start reached.advance = .ok state middle :=
    bind_eq_ok.mpr ⟨_, _, rfl, membersFrom_of_contents performs htext hleads hcontent hend henough⟩
  have hbrace : peekPastBlanks cursor = .ok (some (byte '{')) reached :=
    peekPastBlanks_eq_ok.mpr ⟨lead, hlead, hblanks, hahead, by rintro _ ⟨⟩; decide⟩
  exact object_iff_brace.mpr
    ⟨reached, middle, state, hbrace, hmembers, closeObject_of_head? hend, hcomplete⟩

/-- An object is read only where its members lead to a state from which the value can be made. -/
theorem object_eq_ok {wanted : String} {start : σ} {member : String → σ → Reader σ}
    {complete : σ → Except Fault α} {Step : String → Bytes → σ → σ → Prop}
    (takes : Takes member Step) {cursor last : Cursor} {value : α} :
    object wanted start member complete cursor = .ok value last ↔
      ∃ lead text members state, AllBlank lead ∧ Contents true text members ∧
        Leads Step members start state ∧ complete state = .ok value ∧
        cursor.Passes (lead ++ byte '{' :: (text ++ [byte '\x7d'])) last := by
  constructor
  · intro h
    obtain ⟨reached, middle, state, hbrace, hmembers, hclose, hcomplete⟩ := object_iff_brace.mp h
    obtain ⟨lead, hlead, hblanks, hahead, -⟩ := peekPastBlanks_eq_ok.mp hbrace
    obtain ⟨_, _, hremaining, hfrom⟩ := bind_eq_ok.mp hmembers
    cases hremaining
    obtain ⟨text, members, htext, hleads, hpasses, hend⟩ := contents_of_membersFrom takes hfrom
    obtain ⟨-, rfl⟩ := EStateM.Result.ok.inj ((closeObject_of_head? hend).symm.trans hclose)
    have hinner := hpasses.trans (Cursor.passes_advance hend)
    have hobject := Cursor.passes_cons.mpr ⟨hahead, hinner⟩
    exact ⟨lead, text, members, state, hlead, htext, hleads, hcomplete, hblanks.trans hobject⟩
  · rintro ⟨lead, text, entries, state, hlead, htext, hleads, hcomplete, hpasses⟩
    exact object_of_contents takes.toPerforms hlead htext hleads hcomplete hpasses

/-- A record is read as an object unless an array lies ahead. -/
theorem record_eq_ok {wanted : String} {start : σ} {member : String → σ → Reader σ}
    {complete : σ → Except Fault α} {sequence : Reader α} {cursor last : Cursor} {value : α} :
    record wanted start member complete sequence cursor = .ok value last ↔
      (∃ lead opened middle, AllBlank lead ∧ cursor.Passes (lead ++ [byte '[']) opened ∧
        sequence opened = .ok value middle ∧ closeList middle = .ok () last) ∨
      object wanted start member complete cursor = .ok value last := by
  have hagain : ∀ {ahead reached}, peekPastBlanks cursor = .ok ahead reached →
      object wanted start member complete reached = object wanted start member complete cursor :=
    fun hpeek => bind_congr_of_eq ((peekPastBlanks_peekPastBlanks hpeek).trans hpeek.symm) _
  constructor
  · intro h
    obtain ⟨ahead, reached, hpeek, hrest⟩ := bind_eq_ok.mp h
    split at hrest
    · next hlist =>
      obtain ⟨lead, hlead, hblanks, hahead, -⟩ := peekPastBlanks_eq_ok.mp hpeek
      rw [skip_bind] at hrest
      obtain ⟨middle, hsequence, hclose⟩ := enclosed_eq_ok.mp (placed_eq_ok.mp hrest)
      rw [beq_iff_eq] at hlist
      exact Or.inl ⟨lead, _, middle, hlead,
        hblanks.trans (Cursor.passes_advance (hahead.trans hlist)), hsequence, hclose⟩
    · exact Or.inr (hagain hpeek ▸ hrest)
  · rintro (⟨lead, opened, middle, hlead, hpasses, hsequence, hclose⟩ | hobject)
    · obtain ⟨reached, hblanks, hbracket⟩ := Cursor.passes_append.mp hpasses
      obtain ⟨hahead, rfl⟩ := Cursor.passes_singleton.mp hbracket
      refine bind_eq_ok.mpr ⟨some (byte '['), reached, peekPastBlanks_eq_ok.mpr
        ⟨lead, hlead, hblanks, hahead, by rintro _ ⟨⟩; decide⟩, ?_⟩
      rw [if_pos (beq_self_eq_true _), skip_bind]
      exact placed_eq_ok.mpr (enclosed_eq_ok.mpr ⟨middle, hsequence, hclose⟩)
    · obtain ⟨reached, _, _, hbrace, -⟩ := object_iff_brace.mp hobject
      refine bind_eq_ok.mpr ⟨_, reached, hbrace, ?_⟩
      rw [if_neg (by decide)]
      exact (hagain hbrace).trans hobject

/-- The value of a member that must not have one yet is read behind a colon. -/
theorem field_iff_colon {name : String} {seen found : Option α} {read : Reader α}
    {cursor last : Cursor} :
    field name seen read cursor = .ok found last ↔
      seen = none ∧ ∃ value reached, colon cursor = .ok () reached ∧
        read reached = .ok value last ∧ found = some value := by
  constructor
  · intro h
    unfold field at h
    split at h
    · cases h
    next hnone =>
    obtain ⟨_, reached, hcolon, hread⟩ := bind_eq_ok.mp h
    obtain ⟨value, _, hvalue, hdone⟩ := bind_eq_ok.mp hread
    obtain ⟨rfl, rfl⟩ := pure_eq_ok.mp hdone
    exact ⟨by simpa using hnone, value, reached, hcolon, hvalue, rfl⟩
  · rintro ⟨rfl, value, reached, hcolon, hvalue, rfl⟩
    exact bind_eq_ok.mpr ⟨(), reached, hcolon, bind_eq_ok.mpr ⟨value, last, hvalue, rfl⟩⟩

theorem field_eq_ok {name : String} {seen found : Option α} {read : Reader α}
    {cursor last : Cursor} :
    field name seen read cursor = .ok found last ↔
      seen = none ∧ ∃ gap value reached, AllBlank gap ∧ cursor.Passes (gap ++ [byte ':']) reached ∧
        read reached = .ok value last ∧ found = some value := by
  rw [field_iff_colon]
  constructor
  · rintro ⟨hnone, value, reached, hcolon, hvalue, hfound⟩
    obtain ⟨gap, hgap, hpasses⟩ := colon_eq_ok.mp hcolon
    exact ⟨hnone, gap, value, reached, hgap, hpasses, hvalue, hfound⟩
  · rintro ⟨hnone, gap, value, reached, hgap, hpasses, hvalue, hfound⟩
    exact ⟨hnone, value, reached, colon_eq_ok.mpr ⟨gap, hgap, hpasses⟩, hvalue, hfound⟩

/-- A member that has not been read before is read from the text of its value, and kept. -/
theorem keep_of_read {name : String} {seen : Option α} {read : Reader α} {found : α}
    {keep : Option α → σ} {gap value : Bytes} {cursor last : Cursor} (fresh : seen = none)
    (hgap : AllBlank gap) (hpasses : cursor.Passes (gap ++ byte ':' :: value) last)
    (hread : ∀ reached : Cursor, reached.Passes value last → read reached = .ok found last) :
    (do return keep (← field name seen read) : Reader σ) cursor =
      .ok (keep (some found)) last := by
  rw [List.append_cons] at hpasses
  obtain ⟨reached, hcolon, hvalue⟩ := Cursor.passes_append.mp hpasses
  have hfield : field name seen read cursor = .ok (some found) last :=
    field_eq_ok.mpr ⟨fresh, gap, found, reached, hgap, hcolon, hread reached hvalue, rfl⟩
  exact bind_eq_ok.mpr ⟨_, last, hfield, rfl⟩

/-- A string is read behind blanks, from its opening to its closing quote. -/
theorem string_eq_ok {wanted : String} {cursor last : Cursor} {found : String} :
    string wanted cursor = .ok found last ↔
      ∃ gap spelled, AllBlank gap ∧ SpelledText spelled found ∧
        cursor.Passes (gap ++ byte '"' :: spelled) last := by
  rw [string_iff_quote]
  constructor
  · rintro ⟨reached, hquote, hcontent⟩
    obtain ⟨gap, hgap, hblanks, hahead, -⟩ := peekPastBlanks_eq_ok.mp hquote
    obtain ⟨spelled, hspelled, hpasses⟩ := stringContent_eq_ok.mp hcontent
    exact ⟨gap, spelled, hgap, hspelled, hblanks.trans (Cursor.passes_cons.mpr ⟨hahead, hpasses⟩)⟩
  · rintro ⟨gap, spelled, hgap, hspelled, hpasses⟩
    obtain ⟨reached, hblanks, hquoted⟩ := Cursor.passes_append.mp hpasses
    obtain ⟨hahead, hlater⟩ := Cursor.passes_cons.mp hquoted
    have hquote : peekPastBlanks cursor = .ok (some (byte '"')) reached :=
      peekPastBlanks_eq_ok.mpr ⟨gap, hgap, hblanks, hahead, by rintro _ ⟨⟩; decide⟩
    exact ⟨reached, hquote, stringContent_eq_ok.mpr ⟨spelled, hspelled, hlater⟩⟩

/-- The end of the document is found behind blanks only. -/
theorem finish_eq_ok {cursor : Cursor} :
    (∃ last, finish cursor = .ok () last) ↔ AllBlank cursor.rest := by
  constructor
  · rintro ⟨last, h⟩
    obtain ⟨ahead, reached, hpeek, hrest⟩ := bind_eq_ok.mp h
    obtain ⟨gap, hgap, hpasses, hahead, -⟩ := peekPastBlanks_eq_ok.mp hpeek
    cases ahead with
    | some b => cases hrest
    | none =>
      rw [hpasses.rest, List.head?_eq_none_iff.mp hahead, List.append_nil]
      exact hgap
  · intro hblank
    have hpasses : cursor.Passes cursor.rest ⟨[], cursor.rest.foldl Place.after cursor.place⟩ :=
      ⟨(List.append_nil _).symm, rfl⟩
    exact ⟨_, bind_eq_ok.mpr ⟨none, _,
      peekPastBlanks_eq_ok.mpr ⟨_, hblank, hpasses, rfl, nofun⟩, rfl⟩⟩

end Reader

/-- A document is read where a reader leaves only blanks of it. -/
theorem readWith_eq_ok_iff {α : Type} {read : Reader α} {document : Bytes} {value : α} :
    readWith read document = .ok value ↔
      ∃ reached, read (Cursor.start document) = .ok value reached ∧
        Reader.AllBlank reached.rest := by
  rw [readWith_eq_ok]
  refine exists_congr fun reached => ?_
  rw [exists_and_left, Reader.finish_eq_ok]

/-- The text of an object, with blanks around it, and its members: each with its name and the text
of its value. -/
def ObjectText (text : Bytes) (members : List (String × Bytes)) : Prop :=
  ∃ lead content trail, Reader.AllBlank lead ∧ Reader.Contents true content members ∧
    Reader.AllBlank trail ∧
    text = lead ++ Reader.byte '{' :: (content ++ Reader.byte '\x7d' :: trail)

/-- The text of an object is read as a record where its members lead to a state from which the value
can be made. -/
theorem readWith_record_of_objectText {σ α : Type} {wanted : String} {start : σ}
    {member : String → σ → Reader σ} {complete : σ → Except Fault α}
    {Step : String → Bytes → σ → σ → Prop} {sequence : Reader α}
    (performs : Reader.Performs member Step) {document : Bytes} {members : List (String × Bytes)}
    {state : σ} {value : α} (htext : ObjectText document members)
    (hleads : Reader.Leads Step members start state) (hcomplete : complete state = .ok value) :
    readWith (Reader.record wanted start member complete sequence) document = .ok value := by
  obtain ⟨lead, content, trail, hlead, hcontent, htrail, hdocument⟩ := htext
  obtain ⟨last, hlast, hpasses⟩ := Cursor.exists_passes
    (lead ++ Reader.byte '{' :: (content ++ [Reader.byte '\x7d'])) trail ⟨1, 0⟩
  have hstart : Cursor.start document =
      ⟨(lead ++ Reader.byte '{' :: (content ++ [Reader.byte '\x7d'])) ++ trail, ⟨1, 0⟩⟩ := by
    simp [Cursor.start, hdocument]
  refine readWith_eq_ok_iff.mpr ⟨last, Reader.record_eq_ok.mpr (Or.inr ?_), hlast ▸ htrail⟩
  exact Reader.object_of_contents performs hlead hcontent hleads hcomplete (hstart ▸ hpasses)

/-- A document is read as a record where it is the text of an object whose members lead to a state
from which the value can be made, or an array that holds the value in another way. -/
theorem readWith_record_eq_ok {σ α : Type} {wanted : String} {start : σ}
    {member : String → σ → Reader σ} {complete : σ → Except Fault α}
    {Step : String → Bytes → σ → σ → Prop} {sequence : Reader α} (takes : Reader.Takes member Step)
    {document : Bytes} {value : α} :
    readWith (Reader.record wanted start member complete sequence) document = .ok value ↔
      (∃ lead opened middle last, Reader.AllBlank lead ∧
        (Cursor.start document).Passes (lead ++ [Reader.byte '[']) opened ∧
        sequence opened = .ok value middle ∧ Reader.closeList middle = .ok () last ∧
        Reader.AllBlank last.rest) ∨
      ∃ members state, ObjectText document members ∧ Reader.Leads Step members start state ∧
        complete state = .ok value := by
  rw [readWith_eq_ok_iff]
  constructor
  · rintro ⟨last, hread, htrail⟩
    rcases Reader.record_eq_ok.mp hread with
      ⟨lead, opened, middle, hlead, hpasses, hsequence, hclose⟩ | hobject
    · exact Or.inl ⟨lead, opened, middle, last, hlead, hpasses, hsequence, hclose, htrail⟩
    · obtain ⟨lead, content, members, state, hlead, hcontent, hleads, hcomplete, hpasses⟩ :=
        (Reader.object_eq_ok takes).mp hobject
      refine Or.inr ⟨members, state, ⟨lead, content, last.rest, hlead, hcontent, htrail, ?_⟩,
        hleads, hcomplete⟩
      exact hpasses.rest.trans (by simp)
  · rintro (⟨lead, opened, middle, last, hlead, hpasses, hsequence, hclose, htrail⟩ |
      ⟨members, state, htext, hleads, hcomplete⟩)
    · exact ⟨last, Reader.record_eq_ok.mpr
        (Or.inl ⟨lead, opened, middle, hlead, hpasses, hsequence, hclose⟩), htrail⟩
    · exact readWith_eq_ok_iff.mp
        (readWith_record_of_objectText takes.toPerforms htext hleads hcomplete)

end RelyingParty.Json
