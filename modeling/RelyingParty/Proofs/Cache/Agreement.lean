import RelyingParty.Proofs.Cache.Freshness

/-!
# Agreement

Whoever gets a value out of a cache gets the result of the one computation that the lookup found,
and everybody who found the same computation gets the same. A computation that has lost its entry is
never found again, even if it is over later than the one that took its place.
-/

namespace RelyingParty

variable {ε α ρ : Type}

/-- A caller that looks one key up and is done with what it gets. -/
abbrev Caller.get (cache key : String) (window : Duration) (job : Job (Except ε α))
    (next : Nat → Except ε α → ρ) : Caller ε α ρ :=
  .lookup cache key window job fun id result => .done (next id result)

/-- This takes the entry of a key away from the computation `id`, or gives it to another. -/
def Record.Displaces (record : Record) (cache key : String) (id : Nat) : Prop :=
  record.Removes cache key id ∨ ∃ other, record.Starts cache key other

namespace History

variable {history before middle after since : History} {cache key : String} {id other time : Nat}
  {record first last : Record} {lookup earlier later : Lookup}

/-- The lookups of a caller are recorded. -/
theorem exists_of_mem_lookupsBy {caller : Nat} (h : lookup ∈ history.lookupsBy caller) :
    ∃ record ∈ history, record.happening = .observed caller (.lookedUp lookup) := by
  obtain ⟨record, hmember, hlookup⟩ := List.mem_filterMap.mp h
  refine ⟨record, hmember, ?_⟩
  unfold Record.lookupBy? at hlookup
  split at hlookup
  · next other found hhappening =>
    obtain ⟨rfl, heq⟩ := Option.ite_none_right_eq_some.mp hlookup
    rw [hhappening, Option.some.inj heq]
  · cases hlookup

/-- A lookup finds a computation that was started for its key, by itself or before, and that is no
older than it allows. -/
theorem Every.found (justified : history.Every Record.Justified)
    (h : history = before ++ record :: after) (looksUp : record.LooksUp lookup) :
    ∃ start ∈ before ++ [record], start.Starts lookup.cache lookup.key lookup.id ∧
      record.clock ≤ start.clock + lookup.window.total := by
  cases hnew : lookup.isNew with
  | true =>
    obtain ⟨caller, hhappening⟩ := looksUp
    have hstarts : record.Starts lookup.cache lookup.key lookup.id :=
      ⟨caller, lookup.window, by rw [hhappening, ← hnew]⟩
    exact ⟨record, List.mem_append_right _ List.mem_cons_self, hstarts, Nat.le_add_right _ _⟩
  | false =>
    obtain ⟨time, since, ⟨earlier, start, heq, hstarts, rfl, _⟩, _, hyoung⟩ :=
      justified.lastStart_of_joins h looksUp hnew
    refine ⟨start, ?_, hstarts, hyoung⟩
    rw [heq]
    simp

/-- No computation that was started for a key has a greater number than the last one. -/
theorem LastStart.le (h : history.LastStart cache key id time since)
    (justified : history.Every Record.Justified) (member : record ∈ history)
    (starts : record.Starts cache key other) : other ≤ id := by
  obtain ⟨earlier, start, heq, hstarts, _, hquiet⟩ := h
  rw [heq] at member
  rcases List.mem_append.mp member with hearlier | hlater
  · obtain ⟨before, middle, rfl⟩ := List.append_of_mem hearlier
    have hsplit : history = before ++ record :: (middle ++ start :: since) := by simpa using heq
    exact Nat.le_of_lt (justified.start_lt hsplit starts hstarts)
  · rcases List.mem_cons.mp hlater with rfl | hsince
    · exact Nat.le_of_eq (starts.unique hstarts).2
    · exact absurd starts (hquiet record hsince other)

/-- A lookup that starts a computation gives it a greater number than all before. -/
theorem Every.lt_of_isNew (justified : history.Every Record.Justified)
    (h : history = before ++ record :: after) (looksUp : record.LooksUp lookup)
    (new : lookup.isNew = true) (member : first ∈ before)
    (starts : first.Starts lookup.cache key id) : id < lookup.id := by
  obtain ⟨caller, hhappening⟩ := looksUp
  have hstarts : record.Starts lookup.cache lookup.key lookup.id :=
    ⟨caller, lookup.window, by rw [hhappening, ← new]⟩
  obtain ⟨earlier, between, rfl⟩ := List.append_of_mem member
  have hsplit : history = earlier ++ first :: (between ++ record :: after) := by simpa using h
  exact justified.start_lt hsplit starts hstarts

/-- Along the lookups of a key the computations that are found never go back. -/
theorem Every.id_le (justified : history.Every Record.Justified)
    (h : history = before ++ first :: (middle ++ last :: after)) (hfirst : first.LooksUp earlier)
    (hlast : last.LooksUp later) (hcache : earlier.cache = later.cache)
    (hkey : earlier.key = later.key) : earlier.id ≤ later.id := by
  obtain ⟨start, hmember, hstarts, _⟩ := justified.found h hfirst
  have hsplit : history = (before ++ first :: middle) ++ last :: after := by simpa using h
  have hbefore : start ∈ before ++ first :: middle := by
    rcases List.mem_append.mp hmember with hold | hnew
    · exact List.mem_append_left _ hold
    · obtain rfl := List.mem_singleton.mp hnew
      exact List.mem_append_right _ List.mem_cons_self
  rw [hcache, hkey] at hstarts
  cases hnew : later.isNew with
  | true => exact Nat.le_of_lt (justified.lt_of_isNew hsplit hlast hnew hbefore hstarts)
  | false =>
    obtain ⟨time, since, hlastStart, _⟩ := justified.lastStart_of_joins hsplit hlast hnew
    exact hlastStart.le (Every.of_append (hsplit ▸ justified)) hbefore hstarts

/-- A computation that has lost its entry, or has made way for another, is never found again. -/
theorem Every.gone (justified : history.Every Record.Justified)
    (h : history = before ++ record :: (middle ++ last :: after)) (started : first ∈ before)
    (starts : first.Starts cache key id) (displaces : record.Displaces cache key id)
    (looksUp : last.LooksUp lookup) (hcache : lookup.cache = cache) : lookup.id ≠ id := by
  rintro rfl
  subst hcache
  have hsplit : history = (before ++ record :: middle) ++ last :: after := by simpa using h
  have hbefore : Every Record.Justified (before ++ record :: middle) :=
    Every.of_append (hsplit ▸ justified)
  cases hnew : lookup.isNew with
  | true =>
    have hmember : first ∈ before ++ record :: middle := List.mem_append_left _ started
    exact absurd (justified.lt_of_isNew hsplit looksUp hnew hmember starts) (Nat.lt_irrefl _)
  | false =>
    obtain ⟨time, since, ⟨earlier, start, heq, hstarts, _, hquiet⟩, hkept, _⟩ :=
      justified.lastStart_of_joins hsplit looksUp hnew
    obtain ⟨origin, between, rfl⟩ := List.append_of_mem started
    have hfirst : (origin ++ first :: between) ++ record :: middle =
        origin ++ first :: (between ++ record :: middle) := by simp
    -- what happened since the start includes the record that takes the entry away
    obtain ⟨rfl, rfl, rfl⟩ := hbefore.start_unique hfirst starts heq hstarts
    have hsince : record ∈ between ++ record :: middle :=
      List.mem_append_right _ List.mem_cons_self
    obtain rfl := (starts.unique hstarts).1
    rcases displaces with hremoves | ⟨other, hother⟩
    · exact hkept record hsince hremoves
    · exact hquiet record hsince other hother

end History

/-- How those agree who get values out of caches, told by the callers that were started, the history
and the state at its end. -/
structure History.Agreement (started : List (Caller ε α ρ)) (history : History)
    (pipeline : Pipeline ε α ρ) : Prop where
  /-- A lookup finds one computation, which comes from a job that a caller gave for the same key, no
  longer ago than the lookup allows. -/
  built : ∀ record ∈ history, ∀ lookup, record.LooksUp lookup →
    ∃ before start after caller window given job answers,
      history = before ++ start :: after ∧
      start.happening =
        .observed caller (.lookedUp ⟨lookup.cache, lookup.key, window, lookup.id, true⟩) ∧
      start.clock ≤ record.clock ∧ record.clock ≤ start.clock + lookup.window.total ∧
      Chronicle.Offers started caller lookup.cache lookup.key window given ∧
      (pipeline.caches.named lookup.cache).computations[lookup.id]? =
        some ⟨lookup.key, start.clock, job⟩ ∧
      given.Leads answers job ∧ answers.Sublist (History.asked after)
  /-- Who looks one key up and is done has made one lookup, and has got the result of the
  computation that it found. -/
  result : ∀ (caller : Nat) (cache key : String) (window : Duration) (job : Job (Except ε α))
    (next : Nat → Except ε α → ρ) (result : ρ),
    started[caller]? = some (.get cache key window job next) →
    pipeline.callers[caller]? = some (.finished result) →
    ∃ id isNew value, history.lookupsBy caller = [⟨cache, key, window, id, isNew⟩] ∧
      result = next id value ∧ ∃ computation : Computation ε α,
        (pipeline.caches.named cache).computations[id]? = some computation ∧
          computation.key = key ∧ computation.job = .done value
  /-- Callers that found the same computation have got the same. -/
  agree : ∀ (first last : Nat) (cache key other : String) (window length : Duration)
    (job task : Job (Except ε α)) (next rest : Nat → Except ε α → ρ) (left right : ρ)
    (lookup again : Lookup),
    started[first]? = some (.get cache key window job next) →
    started[last]? = some (.get cache other length task rest) →
    pipeline.callers[first]? = some (.finished left) →
    pipeline.callers[last]? = some (.finished right) →
    history.lookupsBy first = [lookup] → history.lookupsBy last = [again] →
    lookup.id = again.id →
    ∃ value, left = next lookup.id value ∧ right = rest lookup.id value
  /-- A computation that has lost its entry, or has made way for another, is never found again. -/
  gone : ∀ before record middle last after first cache key id lookup,
    history = before ++ record :: (middle ++ last :: after) →
    first ∈ before → first.Starts cache key id → record.Displaces cache key id →
    last.LooksUp lookup → lookup.cache = cache → lookup.id ≠ id
  /-- Along the lookups of a key the computations that are found never go back. -/
  forward : ∀ before first middle last after earlier later,
    history = before ++ first :: (middle ++ last :: after) → first.LooksUp earlier →
    last.LooksUp later → earlier.cache = later.cache → earlier.key = later.key →
    earlier.id ≤ later.id

namespace Chronicle

variable {chronicle : Chronicle ε α ρ}

/-- A lookup finds a computation that comes from a job given for its key. -/
theorem Accounted.built (h : chronicle.Accounted) (booked : chronicle.Booked) {record : Record}
    {lookup : Lookup} (member : record ∈ chronicle.history) (looksUp : record.LooksUp lookup) :
    ∃ before start after caller window given job answers,
      chronicle.history = before ++ start :: after ∧
      start.happening =
        .observed caller (.lookedUp ⟨lookup.cache, lookup.key, window, lookup.id, true⟩) ∧
      start.clock ≤ record.clock ∧ record.clock ≤ start.clock + lookup.window.total ∧
      Offers chronicle.started caller lookup.cache lookup.key window given ∧
      (chronicle.pipeline.caches.named lookup.cache).computations[lookup.id]? =
        some ⟨lookup.key, start.clock, job⟩ ∧
      given.Leads answers job ∧ answers.Sublist (History.asked after) := by
  obtain ⟨earlier, later, heq⟩ := List.append_of_mem member
  obtain ⟨start, hstart, ⟨caller, window, hhappening⟩, hyoung⟩ := booked.justified.found heq looksUp
  have hclock : start.clock ≤ record.clock := by
    have hordered := booked.ordered
    rw [heq, List.pairwise_append] at hordered
    rcases List.mem_append.mp hstart with hold | hnew
    · exact hordered.2.2 start hold record List.mem_cons_self
    · obtain rfl := List.mem_singleton.mp hnew
      exact Nat.le_refl _
  have hmember : start ∈ chronicle.history := by
    rw [heq]
    rcases List.mem_append.mp hstart with hold | hnew
    · exact List.mem_append_left _ hold
    · obtain rfl := List.mem_singleton.mp hnew
      exact List.mem_append_right _ List.mem_cons_self
  obtain ⟨before, after, hsplit⟩ := List.append_of_mem hmember
  obtain ⟨given, job, answers, hcomputation⟩ := h.computation booked hsplit hhappening
  exact ⟨before, start, after, caller, window, given, job, answers, hsplit, hhappening, hclock,
    hyoung, hcomputation⟩

/-- Who looks one key up and is done has got the result of the computation that it found. -/
theorem Accounted.get_result (h : chronicle.Accounted) {caller : Nat} {cache key : String}
    {window : Duration} {job : Job (Except ε α)} {next : Nat → Except ε α → ρ} {result : ρ}
    (hstarted : chronicle.started[caller]? = some (.get cache key window job next))
    (ended : chronicle.pipeline.callers[caller]? = some (.finished result)) :
    ∃ id isNew value, chronicle.history.lookupsBy caller = [⟨cache, key, window, id, isNew⟩] ∧
      result = next id value ∧ ∃ computation : Computation ε α,
        (chronicle.pipeline.caches.named cache).computations[id]? = some computation ∧
          computation.job = .done value := by
  obtain ⟨program, findings, hprogram, hleads, hlookups, hgave⟩ := h.finished ended
  obtain rfl := Option.some.inj (hprogram.symm.trans hstarted)
  cases hleads with
  | @lookup _ _ _ _ id isNew value _ _ findings rest =>
    cases rest with
    | refl => exact ⟨id, isNew, value, hlookups, rfl, hgave _ _ List.mem_cons_self⟩

/-- Those who get values out of caches agree. -/
theorem Accounted.agrees (h : chronicle.Accounted) (booked : chronicle.Booked) :
    History.Agreement chronicle.started chronicle.history chronicle.pipeline where
  built record member lookup looksUp := h.built booked member looksUp
  result caller cache key window job next result hstarted ended := by
    obtain ⟨id, isNew, value, hlookups, hresult, computation, hfound, hdone⟩ :=
      h.get_result hstarted ended
    obtain ⟨record, hmember, looksUp⟩ :=
      History.exists_of_mem_lookupsBy (hlookups ▸ List.mem_cons_self)
    obtain ⟨_, _, _, _, _, _, _, _, _, _, _, _, _, hbuilt, _⟩ :=
      h.built booked hmember ⟨caller, looksUp⟩
    refine ⟨id, isNew, value, hlookups, hresult, computation, hfound, ?_, hdone⟩
    exact congrArg Computation.key (Option.some.inj (hfound.symm.trans hbuilt))
  agree first last cache key other window length job task next rest left right lookup again
      hfirst hlast hleft hright hlookup hagain hid := by
    obtain ⟨id, _, value, hlookups, rfl, computation, hfound, hdone⟩ := h.get_result hfirst hleft
    obtain ⟨id', _, value', hlookups', rfl, computation', hfound', hdone'⟩ :=
      h.get_result hlast hright
    obtain rfl := List.singleton_inj.mp (hlookup.symm.trans hlookups)
    obtain rfl := List.singleton_inj.mp (hagain.symm.trans hlookups')
    obtain rfl : id = id' := hid
    obtain rfl := Option.some.inj (hfound.symm.trans hfound')
    obtain rfl := Job.done.inj (hdone.symm.trans hdone')
    exact ⟨value, rfl, rfl⟩
  gone before record middle last after first cache key id lookup heq started starts displaces
      looksUp hcache := booked.justified.gone heq started starts displaces looksUp hcache
  forward before first middle last after earlier later heq hfirst hlast hcache hkey :=
    booked.justified.id_le heq hfirst hlast hcache hkey

end Chronicle

/-- In every run those agree who get values out of caches, and no computation comes back. -/
theorem Pipeline.agreement (documents : Documents) (events : List (Event ε α ρ)) :
    History.Agreement (Event.started events)
      ((opened documents : Pipeline ε α ρ).history events) ((opened documents).run events).1 := by
  have h := (Chronicle.accounted_extend documents events).agrees
    (Chronicle.booked_extend documents events)
  simpa only [Chronicle.extend, Chronicle.opened, List.nil_append] using h

end RelyingParty
