import RelyingParty.Proofs.Run.Provenance
import Mathlib.Data.List.Induction

/-!
# Freshness and single flight

When a lookup starts a computation and when it joins one, told from the history of the run alone. A
lookup starts a computation exactly when none was started for its key before, or the last one has
lost its entry since, or the last one was started longer ago than the lookup allows. Otherwise it
joins that last computation, however far it has come and whoever waits for it.
-/

namespace RelyingParty

variable {ε α ρ : Type}

/-- This is a lookup. -/
def Record.LooksUp (record : Record) (lookup : Lookup) : Prop :=
  ∃ caller, record.happening = .observed caller (.lookedUp lookup)

/-- This is a lookup that starts the computation `id` for a key. -/
def Record.Starts (record : Record) (cache key : String) (id : Nat) : Prop :=
  ∃ caller window,
    record.happening = .observed caller (.lookedUp ⟨cache, key, window, id, true⟩)

/-- This takes away the entry of a key, which the computation `id` has if it has failed. -/
def Record.Removes (record : Record) (cache key : String) (id : Nat) : Prop :=
  record.happening = .invalidated cache key ∨ record.happening = .cleared cache ∨
    ∃ caller, record.happening = .observed caller (.evicted cache key id)

/-- The computation `id` was the last that was started for a key, at the moment `time`; `since` is
what happened afterwards. -/
def History.LastStart (history : History) (cache key : String) (id time : Nat)
    (since : History) : Prop :=
  ∃ earlier start, history = earlier ++ start :: since ∧ start.Starts cache key id ∧
    start.clock = time ∧ ∀ record ∈ since, ∀ other, ¬ record.Starts cache key other

namespace Record

variable {record : Record} {cache key : String} {id : Nat}

/-- A record starts at most one computation. -/
theorem Starts.unique {other : String} {next : Nat} (h : record.Starts cache key id)
    (h' : record.Starts cache other next) : key = other ∧ id = next := by
  obtain ⟨_, _, hfirst⟩ := h
  obtain ⟨_, _, hlast⟩ := h'
  rw [hfirst] at hlast
  simp only [Happening.observed.injEq, Observation.lookedUp.injEq, Lookup.mk.injEq] at hlast
  exact ⟨hlast.2.2.1, hlast.2.2.2.2.1⟩

theorem Starts.becomes? (h : record.Starts cache key id) :
    record.becomes? cache key = some (some id) := by
  obtain ⟨caller, window, hhappening⟩ := h
  simp [Record.becomes?, hhappening]

theorem Starts.start? (h : record.Starts cache key id) :
    record.start? cache = some (key, record.clock) := by
  obtain ⟨caller, window, hhappening⟩ := h
  simp [Record.start?, hhappening]

theorem Removes.becomes? (h : record.Removes cache key id) :
    record.becomes? cache key = some none := by
  rcases h with hhappening | hhappening | ⟨caller, hhappening⟩ <;>
    simp [Record.becomes?, hhappening]

/-- An entry that is taken away is that of the computation that has it, if one has. -/
theorem removes_of_becomes? {before : History} (h : record.becomes? cache key = some none)
    (justified : record.Justified before)
    (held : before.holder? cache key = none ∨ before.holder? cache key = some id) :
    record.Removes cache key id := by
  obtain ⟨clock, documents, happening⟩ := record
  cases happening with
  | observed caller observation =>
    cases observation with
    | evicted other lost found =>
      simp only [Record.becomes?, Option.ite_none_right_eq_some, and_true] at h
      obtain ⟨rfl, rfl⟩ := h
      have hfound : before.holder? other lost = some found := justified
      rw [hfound] at held
      obtain rfl : found = id := by simpa using held
      exact Or.inr (Or.inr ⟨caller, rfl⟩)
    | lookedUp | requested | recorded => simp [Record.becomes?] at h
  | invalidated other lost =>
    simp only [Record.becomes?, Option.ite_none_right_eq_some, and_true] at h
    obtain ⟨rfl, rfl⟩ := h
    exact Or.inl rfl
  | cleared other =>
    simp only [Record.becomes?, Option.ite_none_right_eq_some, and_true] at h
    obtain rfl := h
    exact Or.inr (Or.inl rfl)

end Record

namespace History

variable {history : History} {cache key : String} {id time : Nat} {since : History}

/-- A computation has the number of those that its cache had started before. -/
theorem Every.start {before after : History} {record : Record}
    (justified : history.Every Record.Justified) (h : history = before ++ record :: after)
    (starts : record.Starts cache key id) : id = (before.starts cache).length := by
  have hjustified := justified before record after h
  obtain ⟨caller, window, hhappening⟩ := starts
  simp only [Record.Justified, hhappening] at hjustified
  obtain ⟨hnew, hid⟩ := hjustified
  rw [Option.isNone_iff_eq_none.mp hnew.symm] at hid
  exact hid

/-- The number of a computation leads to its key and the moment at which it was started. -/
theorem Every.stamp {before after : History} {record : Record}
    (justified : history.Every Record.Justified) (h : history = before ++ record :: after)
    (starts : record.Starts cache key id) :
    (history.starts cache)[id]? = some (key, record.clock) := by
  have hid := justified.start h starts
  have hsplit : history = before ++ ([record] ++ after) := h
  rw [hsplit, starts_append, starts_append, starts_singleton, starts.start?, hid]
  simp

/-- Later computations of a cache have greater numbers. -/
theorem Every.start_lt {before middle after : History} {first last : Record}
    {other : String} {next : Nat} (justified : history.Every Record.Justified)
    (h : history = before ++ first :: (middle ++ last :: after))
    (hfirst : first.Starts cache key id) (hlast : last.Starts cache other next) : id < next := by
  have hsplit : history = (before ++ ([first] ++ middle)) ++ last :: after := by simp [h]
  rw [justified.start h hfirst, justified.start hsplit hlast, starts_append, starts_append,
    starts_singleton, hfirst.start?]
  simp only [List.length_append, Option.toList_some, List.length_singleton]
  omega

/-- A computation is started once. -/
theorem Every.start_unique {before after before' after' : History} {first last : Record}
    {other : String} (justified : history.Every Record.Justified)
    (h : history = before ++ first :: after) (hfirst : first.Starts cache key id)
    (h' : history = before' ++ last :: after') (hlast : last.Starts cache other id) :
    before = before' ∧ first = last ∧ after = after' := by
  have hsplits := h.symm.trans h'
  rcases List.append_eq_append_iff.mp hsplits with ⟨rest, rfl, hrest⟩ | ⟨rest, rfl, hrest⟩
  · cases rest with
    | nil =>
      obtain ⟨rfl, rfl⟩ := List.cons.inj hrest
      exact ⟨(List.append_nil _).symm, rfl, rfl⟩
    | cons record middle =>
      obtain ⟨rfl, rfl⟩ := List.cons.inj hrest
      exact absurd (justified.start_lt h hfirst hlast) (Nat.lt_irrefl id)
  · cases rest with
    | nil =>
      obtain ⟨rfl, rfl⟩ := List.cons.inj hrest
      exact ⟨List.append_nil _, rfl, rfl⟩
    | cons record middle =>
      obtain ⟨rfl, rfl⟩ := List.cons.inj hrest
      exact absurd (justified.start_lt h' hlast hfirst) (Nat.lt_irrefl id)

theorem LastStart.of_append {last : History} {earlier : History} {start : Record}
    (starts : start.Starts cache key id) (quiet : ∀ record ∈ last, ∀ other,
      ¬ record.Starts cache key other) :
    LastStart (earlier ++ start :: last) cache key id start.clock last :=
  ⟨earlier, start, rfl, starts, rfl, quiet⟩

theorem LastStart.append_singleton (h : history.LastStart cache key id time since)
    {record : Record} (quiet : ∀ other, ¬ record.Starts cache key other) :
    LastStart (history ++ [record]) cache key id time (since ++ [record]) := by
  obtain ⟨earlier, start, rfl, hstarts, htime, hquiet⟩ := h
  refine ⟨earlier, start, ?_, hstarts, htime, ?_⟩
  · rw [List.append_assoc, List.cons_append]
  · intro other hother
    rcases List.mem_append.mp hother with hold | hnew
    · exact hquiet other hold
    · obtain rfl := List.mem_singleton.mp hnew
      exact quiet

/-- When computations were started for a key, one of them was the last. -/
theorem exists_lastStart (h : ∃ record ∈ history, ∃ id, record.Starts cache key id) :
    ∃ id time since, history.LastStart cache key id time since := by
  induction history using List.reverseRecOn with
  | nil =>
    obtain ⟨record, hrecord, _⟩ := h
    exact absurd hrecord List.not_mem_nil
  | append_singleton earlier last ih =>
    by_cases hlast : ∃ id, last.Starts cache key id
    · obtain ⟨id, hstarts⟩ := hlast
      exact ⟨id, last.clock, [], .of_append hstarts fun _ h => absurd h List.not_mem_nil⟩
    · obtain ⟨record, hrecord, id, hstarts⟩ := h
      have hold : record ∈ earlier := by
        rcases List.mem_append.mp hrecord with hold | hnew
        · exact hold
        · obtain rfl := List.mem_singleton.mp hnew
          exact absurd ⟨id, hstarts⟩ hlast
      obtain ⟨id, time, since, hfound⟩ := ih ⟨record, hold, id, hstarts⟩
      exact ⟨id, time, since ++ [last], hfound.append_singleton fun other h => hlast ⟨other, h⟩⟩

/-- Without a start no computation has the entry of a key. -/
theorem holder?_eq_none (quiet : ∀ record ∈ history, ∀ id, ¬ record.Starts cache key id) :
    history.holder? cache key = none := by
  induction history using List.reverseRecOn with
  | nil => rfl
  | append_singleton earlier last ih =>
    have hearlier := ih fun record h => quiet record (List.mem_append_left _ h)
    rw [holder?_append_singleton, hearlier]
    match hentry : last.becomes? cache key with
    | none => rfl
    | some none => rfl
    | some (some id) =>
      have hlast : last ∈ earlier ++ [last] := List.mem_append_right _ List.mem_cons_self
      exact absurd (Record.becomes?_eq_some_some hentry) (quiet last hlast id)

/-- The computation that was started last has the entry, unless it has been taken away since. -/
theorem LastStart.holder? (h : history.LastStart cache key id time since)
    (justified : history.Every Record.Justified) :
    (history.holder? cache key = some id ∧ ∀ record ∈ since, ¬ record.Removes cache key id) ∨
      (history.holder? cache key = none ∧ ∃ record ∈ since, record.Removes cache key id) := by
  obtain ⟨earlier, start, rfl, hstarts, htime, hquiet⟩ := h
  induction since using List.reverseRecOn with
  | nil =>
    left
    rw [holder?_append_singleton, hstarts.becomes?]
    exact ⟨rfl, fun _ h => absurd h List.not_mem_nil⟩
  | append_singleton middle last ih =>
    have hsplit : earlier ++ start :: (middle ++ [last]) =
        (earlier ++ start :: middle) ++ [last] := by
      simp
    have hlast : last ∈ middle ++ [last] := List.mem_append_right _ List.mem_cons_self
    rw [hsplit] at justified ⊢
    have hmiddle := ih justified.of_append
      fun record h => hquiet record (List.mem_append_left _ h)
    rw [holder?_append_singleton]
    match hentry : last.becomes? cache key with
    | some (some other) =>
      exact absurd (Record.becomes?_eq_some_some hentry) (hquiet last hlast other)
    | none =>
      have hkeeps : ¬ last.Removes cache key id := by
        intro hremoves
        rw [hremoves.becomes?] at hentry
        cases hentry
      rcases hmiddle with ⟨hheld, hkept⟩ | ⟨hheld, record, hrecord, hremoves⟩
      · refine Or.inl ⟨hheld, fun record hrecord => ?_⟩
        rcases List.mem_append.mp hrecord with hold | hnew
        · exact hkept record hold
        · obtain rfl := List.mem_singleton.mp hnew
          exact hkeeps
      · exact Or.inr ⟨hheld, record, List.mem_append_left _ hrecord, hremoves⟩
    | some none =>
      have hjustified := justified _ last [] rfl
      have hheld := hmiddle.symm.imp And.left And.left
      exact Or.inr ⟨rfl, last, hlast, Record.removes_of_becomes? hentry hjustified hheld⟩

/-- A lookup finds the last computation that was started for its key, unless that has lost its
entry or is too old. -/
theorem LastStart.fresh? (h : history.LastStart cache key id time since)
    (justified : history.Every Record.Justified) (now : Nat) (window : Duration) :
    (history.fresh? now cache key window = some id ∧
        (∀ record ∈ since, ¬ record.Removes cache key id) ∧ now ≤ time + window.total) ∨
      (history.fresh? now cache key window = none ∧
        ((∃ record ∈ since, record.Removes cache key id) ∨ time + window.total < now)) := by
  have hheld := h.holder? justified
  obtain ⟨earlier, start, heq, hstarts, rfl, hquiet⟩ := h
  have hstamp := justified.stamp heq hstarts
  rcases hheld with ⟨hheld, hkept⟩ | ⟨hheld, hlost⟩
  · simp only [History.fresh?, hheld, hstamp, Option.bind_some]
    by_cases hyoung : now ≤ start.clock + window.total
    · exact Or.inl ⟨if_pos (by omega), hkept, hyoung⟩
    · exact Or.inr ⟨if_neg (by omega), Or.inr (by omega)⟩
  · simp only [History.fresh?, hheld, Option.bind_none]
    exact Or.inr ⟨trivial, Or.inl hlost⟩

/-- Without a start a lookup finds nothing. -/
theorem fresh?_eq_none (quiet : ∀ record ∈ history, ∀ id, ¬ record.Starts cache key id) (now : Nat)
    (window : Duration) : history.fresh? now cache key window = none := by
  rw [fresh?, holder?_eq_none quiet]
  rfl

variable {before after : History} {record : Record} {lookup : Lookup}

theorem Every.isNew_eq (justified : history.Every Record.Justified)
    (h : history = before ++ record :: after) (looksUp : record.LooksUp lookup) :
    lookup.isNew = (before.fresh? record.clock lookup.cache lookup.key lookup.window).isNone := by
  obtain ⟨caller, hhappening⟩ := looksUp
  have hjustified := justified before record after h
  simp only [Record.Justified, hhappening] at hjustified
  exact hjustified.1

theorem Every.id_eq (justified : history.Every Record.Justified)
    (h : history = before ++ record :: after) (looksUp : record.LooksUp lookup) {id : Nat}
    (found : before.fresh? record.clock lookup.cache lookup.key lookup.window = some id) :
    lookup.id = id := by
  obtain ⟨caller, hhappening⟩ := looksUp
  have hjustified := justified before record after h
  simp only [Record.Justified, hhappening, found] at hjustified
  exact hjustified.2

/-- A lookup starts a computation exactly when none was started before, or the last has lost its
entry, or it is too old. -/
theorem Every.isNew_iff (justified : history.Every Record.Justified)
    (h : history = before ++ record :: after) (looksUp : record.LooksUp lookup) :
    lookup.isNew = true ↔
      (∀ earlier ∈ before, ∀ id, ¬ earlier.Starts lookup.cache lookup.key id) ∨
      ∃ id time since, LastStart before lookup.cache lookup.key id time since ∧
        ((∃ other ∈ since, other.Removes lookup.cache lookup.key id) ∨
          time + lookup.window.total < record.clock) := by
  have hbefore : before.Every Record.Justified := Every.of_append (h ▸ justified)
  rw [justified.isNew_eq h looksUp]
  constructor
  · intro hnew
    by_cases hstarted : ∃ earlier ∈ before, ∃ id, earlier.Starts lookup.cache lookup.key id
    · obtain ⟨id, time, since, hlast⟩ := exists_lastStart hstarted
      refine Or.inr ⟨id, time, since, hlast, ?_⟩
      rcases hlast.fresh? hbefore record.clock lookup.window with ⟨hfresh, _⟩ | ⟨_, hlost⟩
      · simp [hfresh] at hnew
      · exact hlost
    · refine Or.inl fun earlier hearlier id hstarts => ?_
      exact hstarted ⟨earlier, hearlier, id, hstarts⟩
  · rintro (hquiet | ⟨id, time, since, hlast, hlost⟩)
    · rw [fresh?_eq_none hquiet]
      rfl
    · rcases hlast.fresh? hbefore record.clock lookup.window with ⟨_, hkept, hyoung⟩ | ⟨hfresh, _⟩
      · rcases hlost with ⟨other, hother, hremoves⟩ | hold
        · exact absurd hremoves (hkept other hother)
        · omega
      · rw [hfresh]
        rfl

/-- A lookup that starts no computation joins the last that was started for its key, which has kept
its entry and is young enough. -/
theorem Every.lastStart_of_joins (justified : history.Every Record.Justified)
    (h : history = before ++ record :: after) (looksUp : record.LooksUp lookup)
    (joins : lookup.isNew = false) :
    ∃ time since, LastStart before lookup.cache lookup.key lookup.id time since ∧
      (∀ other ∈ since, ¬ other.Removes lookup.cache lookup.key lookup.id) ∧
      record.clock ≤ time + lookup.window.total := by
  have hbefore : before.Every Record.Justified := Every.of_append (h ▸ justified)
  have hfound := justified.isNew_eq h looksUp
  rw [joins] at hfound
  have hstarted : ∃ earlier ∈ before, ∃ id, earlier.Starts lookup.cache lookup.key id := by
    by_contra hnone
    have hquiet : ∀ earlier ∈ before, ∀ id, ¬ earlier.Starts lookup.cache lookup.key id :=
      fun earlier hearlier id hstarts => hnone ⟨earlier, hearlier, id, hstarts⟩
    rw [fresh?_eq_none hquiet] at hfound
    cases hfound
  obtain ⟨id, time, since, hlast⟩ := exists_lastStart hstarted
  rcases hlast.fresh? hbefore record.clock lookup.window with ⟨hfresh, hheld⟩ | ⟨hfresh, _⟩
  · obtain rfl := justified.id_eq h looksUp hfresh
    exact ⟨time, since, hlast, hheld⟩
  · rw [hfresh] at hfound
    cases hfound

/-- While a computation keeps its entry and every lookup of its key allows its age, all of them join
it. -/
theorem Every.shared (justified : history.Every Record.Justified) {start : Record}
    {window : Duration} (h : history = before ++ start :: (since ++ after))
    (starts : start.Starts cache key id)
    (kept : ∀ record ∈ since, ¬ record.Removes cache key id)
    (allowed : ∀ record ∈ since, ∀ lookup, record.LooksUp lookup → lookup.cache = cache →
      lookup.key = key →
      window.total ≤ lookup.window.total ∧ record.clock ≤ start.clock + window.total) :
    ∀ record ∈ since, ∀ lookup, record.LooksUp lookup → lookup.cache = cache → lookup.key = key →
      lookup.isNew = false ∧ lookup.id = id := by
  induction since using List.reverseRecOn generalizing after with
  | nil => exact fun _ h => absurd h List.not_mem_nil
  | append_singleton middle last ih =>
    have hmiddle := @ih (last :: after) (by simpa using h)
      (fun record hrecord => kept record (List.mem_append_left _ hrecord))
      (fun record hrecord => allowed record (List.mem_append_left _ hrecord))
    have hquiet : ∀ record ∈ middle, ∀ other, ¬ record.Starts cache key other := by
      rintro record hrecord other ⟨caller, window, hhappening⟩
      have hjoins := hmiddle record hrecord _ ⟨caller, hhappening⟩ rfl rfl
      exact absurd hjoins.1 (by simp)
    have hsplit : history = (before ++ start :: middle) ++ last :: after := by simpa using h
    have hlast : LastStart (before ++ start :: middle) cache key id start.clock middle :=
      .of_append starts hquiet
    intro record hrecord lookup looksUp hcache hkey
    rcases List.mem_append.mp hrecord with hold | hnew
    · exact hmiddle record hold lookup looksUp hcache hkey
    · obtain rfl := List.mem_singleton.mp hnew
      subst hcache hkey
      obtain ⟨hwindow, hclock⟩ := allowed record hrecord lookup looksUp rfl rfl
      have hbefore : Every Record.Justified (before ++ start :: middle) :=
        Every.of_append (hsplit ▸ justified)
      have hkept : ∀ other ∈ middle, ¬ other.Removes lookup.cache lookup.key id :=
        fun other hother => kept other (List.mem_append_left _ hother)
      rcases hlast.fresh? hbefore record.clock lookup.window with ⟨hfresh, _⟩ | ⟨_, hlost⟩
      · refine ⟨?_, justified.id_eq hsplit looksUp hfresh⟩
        rw [justified.isNew_eq hsplit looksUp, hfresh]
        rfl
      · rcases hlost with ⟨other, hother, hremoves⟩ | hold
        · exact absurd hremoves (hkept other hother)
        · omega

/-- A computation has the entry of a key exactly when it was started last for it and has not lost
the entry since. -/
theorem Every.holder?_iff (justified : history.Every Record.Justified) :
    history.holder? cache key = some id ↔
      ∃ time since, history.LastStart cache key id time since ∧
        ∀ record ∈ since, ¬ record.Removes cache key id := by
  constructor
  · intro hheld
    have hstarted : ∃ record ∈ history, ∃ id, record.Starts cache key id := by
      by_contra hnone
      have hquiet : ∀ record ∈ history, ∀ id, ¬ record.Starts cache key id :=
        fun record hrecord id hstarts => hnone ⟨record, hrecord, id, hstarts⟩
      rw [holder?_eq_none hquiet] at hheld
      cases hheld
    obtain ⟨other, time, since, hlast⟩ := exists_lastStart hstarted
    rcases hlast.holder? justified with ⟨hother, hkept⟩ | ⟨hnone, _⟩
    · obtain rfl : other = id := Option.some.inj (hother.symm.trans hheld)
      exact ⟨time, since, hlast, hkept⟩
    · rw [hnone] at hheld
      cases hheld
  · rintro ⟨time, since, hlast, hkept⟩
    rcases hlast.holder? justified with ⟨hheld, _⟩ | ⟨_, record, hrecord, hremoves⟩
    · exact hheld
    · exact absurd hremoves (hkept record hrecord)

end History

/-- How the computations of caches are shared, told by the callers that were started, the history
and the caches at its end. -/
structure History.SingleFlight (started : List (Caller ε α ρ)) (history : History)
    (caches : Caches ε α) : Prop where
  /-- A lookup starts a computation exactly when none was started for its key before, or the last
  one has lost its entry since, or it was started longer ago than the lookup allows. -/
  isNew_iff : ∀ before record after lookup, history = before ++ record :: after →
    record.LooksUp lookup → (lookup.isNew = true ↔
      (∀ earlier ∈ before, ∀ id, ¬ earlier.Starts lookup.cache lookup.key id) ∨
      ∃ id time since, History.LastStart before lookup.cache lookup.key id time since ∧
        ((∃ other ∈ since, other.Removes lookup.cache lookup.key id) ∨
          time + lookup.window.total < record.clock))
  /-- Otherwise it joins the last computation that was started for its key. -/
  joins : ∀ before record after lookup, history = before ++ record :: after →
    record.LooksUp lookup → lookup.isNew = false →
      ∃ time since, History.LastStart before lookup.cache lookup.key lookup.id time since
  /-- A start makes one computation out of the job that the caller gives, for the key and at the
  moment of the lookup. -/
  computation : ∀ before record after caller cache key window id,
    history = before ++ record :: after →
    record.happening = .observed caller (.lookedUp ⟨cache, key, window, id, true⟩) →
      ∃ given job answers, Chronicle.Offers started caller cache key window given ∧
        (caches.named cache).computations[id]? = some ⟨key, record.clock, job⟩ ∧
        given.Leads answers job ∧ answers.Sublist (History.asked after)
  /-- No other start makes the same computation. -/
  once : ∀ before record after cache key id, history = before ++ record :: after →
    record.Starts cache key id → ∀ other ∈ before ++ after, ∀ key, ¬ other.Starts cache key id
  /-- There are no computations but those that were started. -/
  started : ∀ (cache : String) (id : Nat) (computation : Computation ε α),
    (caches.named cache).computations[id]? = some computation →
      ∃ record ∈ history, record.Starts cache computation.key id ∧
        record.clock = computation.since
  /-- The computation that was started last for a key has its entry until that is taken away. -/
  entry_iff : ∀ cache key id, (caches.named cache).entries.find? key = some id ↔
    ∃ time since, history.LastStart cache key id time since ∧
      ∀ record ∈ since, ¬ record.Removes cache key id
  /-- A computation loses its entry to one who waited for it only when it has failed. -/
  evicted : ∀ record ∈ history, ∀ caller cache key id,
    record.happening = .observed caller (.evicted cache key id) →
    ∃ (computation : Computation ε α) (fault : ε),
      (caches.named cache).computations[id]? = some computation ∧
        computation.job = .done (.error fault)
  /-- As long as a computation keeps its entry and every lookup of its key allows its age, all of
  these lookups join it. -/
  shared : ∀ before start since after cache key id, ∀ window : Duration,
    history = before ++ start :: (since ++ after) → start.Starts cache key id →
    (∀ record ∈ since, ¬ record.Removes cache key id) →
    (∀ record ∈ since, ∀ lookup, record.LooksUp lookup → lookup.cache = cache →
      lookup.key = key →
      window.total ≤ lookup.window.total ∧ record.clock ≤ start.clock + window.total) →
    ∀ record ∈ since, ∀ lookup, record.LooksUp lookup → lookup.cache = cache →
      lookup.key = key → lookup.isNew = false ∧ lookup.id = id

namespace Chronicle

variable {chronicle : Chronicle ε α ρ}

/-- The computation that a lookup started is there, and it has come from the job of the caller. -/
theorem Accounted.computation (h : chronicle.Accounted) (booked : chronicle.Booked)
    {before after : History} {record : Record} {caller : Nat} {cache key : String}
    {window : Duration} {id : Nat} (heq : chronicle.history = before ++ record :: after)
    (starts : record.happening = .observed caller (.lookedUp ⟨cache, key, window, id, true⟩)) :
    ∃ given job answers, Offers chronicle.started caller cache key window given ∧
      (chronicle.pipeline.caches.named cache).computations[id]? = some ⟨key, record.clock, job⟩ ∧
      given.Leads answers job ∧ answers.Sublist (History.asked after) := by
  have hstamp := booked.justified.stamp heq ⟨caller, window, starts⟩
  rw [← (booked.recorded cache).stamps, AgedCache.stamps, List.getElem?_map,
    Option.map_eq_some_iff] at hstamp
  obtain ⟨⟨_, _, job⟩, hfound, hstamp⟩ := hstamp
  obtain ⟨rfl, rfl⟩ := Prod.mk.inj hstamp
  obtain ⟨earlier, start, later, other, length, given, answers, hsplit, hhappening, _, hoffers,
    hleads, hasked⟩ := h.traced cache id _ hfound
  -- the start that the computation is traced to is the one that was given
  obtain ⟨rfl, rfl, rfl⟩ := booked.justified.start_unique heq ⟨caller, window, starts⟩ hsplit
    ⟨other, length, hhappening⟩
  rw [starts] at hhappening
  simp only [Happening.observed.injEq, Observation.lookedUp.injEq, Lookup.mk.injEq] at hhappening
  obtain ⟨rfl, _, _, rfl, _⟩ := hhappening
  exact ⟨given, job, answers, hoffers, hfound, hleads, hasked⟩

/-- Computations are shared as the history tells. -/
theorem Accounted.shares (h : chronicle.Accounted) (booked : chronicle.Booked) :
    History.SingleFlight chronicle.started chronicle.history chronicle.pipeline.caches where
  isNew_iff before record after lookup heq looksUp := booked.justified.isNew_iff heq looksUp
  joins before record after lookup heq looksUp joins := by
    obtain ⟨time, since, hlast, _⟩ := booked.justified.lastStart_of_joins heq looksUp joins
    exact ⟨time, since, hlast⟩
  computation before record after caller cache key window id heq starts :=
    h.computation booked heq starts
  once before record after cache key id heq starts other hother key' hstarts := by
    rcases List.mem_append.mp hother with hbefore | hafter
    · obtain ⟨first, middle, rfl⟩ := List.append_of_mem hbefore
      have hsplit : chronicle.history = first ++ other :: (middle ++ record :: after) := by
        simpa using heq
      exact absurd (booked.justified.start_lt hsplit hstarts starts) (Nat.lt_irrefl id)
    · obtain ⟨middle, last, rfl⟩ := List.append_of_mem hafter
      exact absurd (booked.justified.start_lt heq starts hstarts) (Nat.lt_irrefl id)
  started cache id computation hfound := by
    obtain ⟨before, record, after, caller, window, _, _, heq, hstarts, hclock, _⟩ :=
      h.traced cache id computation hfound
    refine ⟨record, ?_, ⟨caller, window, hstarts⟩, hclock⟩
    rw [heq]
    exact List.mem_append_right _ List.mem_cons_self
  entry_iff cache key id := by
    rw [(booked.recorded cache).entries]
    exact booked.justified.holder?_iff
  evicted := h.failed
  shared before start since after cache key id window heq starts kept allowed :=
    booked.justified.shared heq starts kept allowed

end Chronicle

/-- In every run the computations are shared as the history tells. -/
theorem Pipeline.singleFlight (documents : Documents) (events : List (Event ε α ρ)) :
    History.SingleFlight (Event.started events)
      ((opened documents : Pipeline ε α ρ).history events)
      ((opened documents).run events).1.caches := by
  have h := (Chronicle.accounted_extend documents events).shares
    (Chronicle.booked_extend documents events)
  simpa only [Chronicle.extend, Chronicle.opened, List.nil_append] using h

-- the second caller finds the computation exactly as old as it allows, the third finds it too old
example :
    let caller (window : Duration) : Caller Unit Nat Nat :=
      .lookup "cache" "key" window (.delay 3 (.done (.ok 7))) fun id _ => .done id
    let events : List (Event Unit Nat Nat) :=
      [.start (caller (.ofSeconds 5)), .start (caller (.ofSeconds 5)),
        .start (caller (.ofSeconds 4)), .poll 0, .pass 5000000000, .poll 1, .poll 2]
    ((Pipeline.opened []).history events).starts "cache" = [("key", 0), ("key", 5000000000)] := by
  cbv

end RelyingParty
