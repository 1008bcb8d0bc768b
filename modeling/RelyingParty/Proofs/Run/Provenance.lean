import RelyingParty.Proofs.Cache.Ledger
import RelyingParty.Proofs.Cache.Progress

/-!
# Where results come from

A caller goes the way that was laid down when it was started: it makes its lookups one after the
other, and what it gets for each is the result of the computation that the lookup found. A
computation goes the way of the job that the caller gave who started it. After every run, the way
that a caller or a computation has come can be told from the history.
-/

namespace RelyingParty

variable {ε α ρ : Type}

/-- Lookups that were made, with the results that they gave. -/
abbrev Findings (ε α : Type) := List (Lookup × Except ε α)

namespace Caller

/-- A caller comes, with some findings, to what is left of it. -/
inductive Leads : Caller ε α ρ → Findings ε α → Caller ε α ρ → Prop where
  /-- Nothing has happened. -/
  | refl (caller : Caller ε α ρ) : Leads caller [] caller
  /-- It counts something. -/
  | record {metric : Metric} {next left : Caller ε α ρ} {findings : Findings ε α}
    (rest : Leads next findings left) : Leads (.record metric next) findings left
  /-- It looks a key up and gets a result. -/
  | lookup {name key : String} {window : Duration} {job : Job (Except ε α)} {id : Nat}
    {isNew : Bool} {result : Except ε α} {next : Nat → Except ε α → Caller ε α ρ}
    {left : Caller ε α ρ} {findings : Findings ε α} (rest : Leads (next id result) findings left) :
    Leads (.lookup name key window job next)
      ((⟨name, key, window, id, isNew⟩, result) :: findings) left
  /-- It gets the result for which it waits. -/
  | resume {name key : String} {id : Nat} {result : Except ε α}
    {next : Nat → Except ε α → Caller ε α ρ} {left : Caller ε α ρ} {findings : Findings ε α}
    (rest : Leads (next id result) findings left) : Leads (.awaiting name key id next) findings left

theorem Leads.trans {caller middle left : Caller ε α ρ} {first last : Findings ε α}
    (hfirst : caller.Leads first middle) (hlast : middle.Leads last left) :
    caller.Leads (first ++ last) left := by
  induction hfirst with
  | refl => exact hlast
  | record _ ih => exact .record (ih hlast)
  | lookup _ ih => exact .lookup (ih hlast)
  | resume _ ih => exact .resume (ih hlast)

end Caller

/-- Every result is that of the computation that its lookup found. -/
def Caches.Gave (caches : Caches ε α) (findings : Findings ε α) : Prop :=
  ∀ lookup result, (lookup, result) ∈ findings → ∃ computation : Computation ε α,
    (caches.named lookup.cache).computations[lookup.id]? = some computation ∧
      computation.job = .done result

/-- A caller has come to what is left of it, and has made some lookups on its way. -/
inductive Caller.Came (caches : Caches ε α) (program : Caller ε α ρ) :
    List Lookup → Caller ε α ρ → Prop where
  /-- It has the results of all its lookups. -/
  | informed {findings : Findings ε α} {left : Caller ε α ρ} (leads : program.Leads findings left)
    (gave : caches.Gave findings) : Came caches program (findings.map Prod.fst) left
  /-- It waits for what the last of its lookups found. -/
  | waiting {findings : Findings ε α} {name key : String} {window : Duration} {id : Nat}
    {isNew : Bool} {job : Job (Except ε α)} {next : Nat → Except ε α → Caller ε α ρ}
    (leads : program.Leads findings (.lookup name key window job next))
    (gave : caches.Gave findings) :
    Came caches program (findings.map Prod.fst ++ [⟨name, key, window, id, isNew⟩])
      (.awaiting name key id next)

/-- Results that were given stay as they are. -/
theorem Caches.Gave.goOn {caches next : Caches ε α} {findings : Findings ε α} {answers : Answers}
    (h : caches.Gave findings) (on : caches.GoOn answers next) : next.Gave findings := by
  intro lookup result hmember
  obtain ⟨computation, hfound, hdone⟩ := h lookup result hmember
  obtain ⟨last, given, hlast, hgoesOn, _⟩ := on _ _ _ hfound
  have hleads := hgoesOn.leads
  rw [hdone] at hleads
  exact ⟨last, hlast, hleads.of_done.2⟩

namespace History

theorem lookupsBy_append (first last : History) (caller : Nat) :
    lookupsBy (first ++ last) caller = first.lookupsBy caller ++ last.lookupsBy caller :=
  List.filterMap_append

/-- Nobody looks a key up but the caller that is polled. -/
theorem lookupsBy_of_ne {now : Nat} {documents : Documents} (seen : List Observation)
    {caller other : Nat} (h : caller ≠ other) :
    lookupsBy (seen.map fun observation => ⟨now, documents, .observed caller observation⟩) other =
      [] := by
  simp only [lookupsBy, List.filterMap_map]
  refine List.filterMap_eq_nil_iff.mpr fun observation _ => ?_
  cases observation <;> simp [Record.lookupBy?, h]

/-- Who waits for a computation looks nothing up. -/
theorem lookupsBy_await (caches : Caches ε α) (now : Nat) (documents : Documents)
    (name key : String) (id caller other : Nat) :
    lookupsBy ((caches.await now documents name key id).seen.map fun observation =>
      ⟨now, documents, .observed caller observation⟩) other = [] := by
  obtain ⟨lost, hseen, hlost⟩ := caches.seen_await now documents name key id
  rw [hseen, lookupsBy, List.filterMap_map]
  refine List.filterMap_eq_nil_iff.mpr fun observation hobservation => ?_
  rcases List.mem_append.mp hobservation with heffect | hevicted
  · obtain ⟨effect, _, rfl⟩ := List.mem_map.mp heffect
    cases effect <;> rfl
  · rw [(hlost observation hevicted).1]
    rfl

end History

/-- A caller is where it is also after other computations have gone on. -/
theorem Caller.Came.goOn {caches next : Caches ε α} {program left : Caller ε α ρ}
    {lookups : List Lookup} {answers : Answers} (h : program.Came caches lookups left)
    (on : caches.GoOn answers next) : program.Came next lookups left := by
  cases h with
  | informed leads gave => exact .informed leads (gave.goOn on)
  | waiting leads gave => exact .waiting leads (gave.goOn on)

/-- With each step a caller goes the way that was laid down for it. -/
theorem Caller.Came.step {caches : Caches ε α} {program caller : Caller ε α ρ}
    {lookups : List Lookup} {now : Nat} {documents : Documents} {polled : Caller.Polled ε α ρ}
    {answers : Answers} (h : program.Came caches lookups caller)
    (step : Caller.Step now documents caches caller polled)
    (on : caches.GoOn answers polled.caches) (id : Nat) :
    program.Came polled.caches (lookups ++ History.lookupsBy (polled.seen.map fun observation =>
      ⟨now, documents, .observed id observation⟩) id) polled.caller := by
  cases step with
  | record metric next =>
    cases h with
    | @informed findings _ leads gave =>
      have hleads := leads.trans (.record (.refl next))
      rw [← List.append_nil findings] at gave
      have hcame : program.Came caches _ next := .informed hleads gave
      rwa [List.map_append] at hcame
  | lookup name key window job next =>
    cases h with
    | informed leads gave =>
      simp only [History.lookupsBy, List.map_singleton, Record.lookupBy?, List.filterMap_cons,
        if_true, List.filterMap_nil]
      exact .waiting leads (gave.goOn on)
  | @resume name key waited next result ended =>
    rw [History.lookupsBy_await, List.append_nil]
    cases h with
    | @informed findings _ leads gave =>
      have hleads := leads.trans (.resume (.refl (next waited result)))
      rw [List.append_nil] at hleads
      exact .informed hleads (gave.goOn on)
    | @waiting findings _ _ window _ isNew job _ leads gave =>
      have hfound : Caller.Leads (.lookup name key window job next)
          [(⟨name, key, window, waited, isNew⟩, result)] (next waited result) :=
        .lookup (.refl _)
      have hgave : Caches.Gave (caches.await now documents name key waited).caches
          (findings ++ [(⟨name, key, window, waited, isNew⟩, result)]) := by
        intro lookup given hmember
        rcases List.mem_append.mp hmember with hold | hnew
        · exact gave.goOn on lookup given hold
        · obtain ⟨rfl, rfl⟩ := Prod.mk.inj (List.mem_singleton.mp hnew)
          exact Caches.exists_done_of_await ended
      have hcame : program.Came _ _ _ := .informed (leads.trans hfound) hgave
      rwa [List.map_append] at hcame
  | wait name key waited next running =>
    rw [History.lookupsBy_await, List.append_nil]
    exact h.goOn on

/-- What is left of a caller that was started. -/
def Slot.left? : Slot ε α ρ → Option (Caller ε α ρ)
  | .running caller => some caller
  | .finished result => some (.done result)
  | .dropped => none

/-- The result of a caller that is over. -/
def Slot.result? : Slot ε α ρ → Option ρ
  | .finished result => some result
  | _ => none

theorem Slot.eq_finished {slot : Option (Slot ε α ρ)} {result : ρ}
    (h : slot.bind result? = some result) : slot = some (.finished result) := by
  obtain ⟨found, rfl, hresult⟩ := Option.bind_eq_some_iff.mp h
  cases found with
  | finished other =>
    obtain rfl := Option.some.inj hresult
    rfl
  | running | dropped => cases hresult

/-- A caller that has a result is over with it. -/
theorem Slot.exists_finished {slot : Option (Slot ε α ρ)}
    (h : (slot.bind result?).isSome = true) : ∃ result, slot = some (.finished result) := by
  obtain ⟨result, hresult⟩ := Option.isSome_iff_exists.mp h
  exact ⟨result, eq_finished hresult⟩

namespace Chronicle

/-- On its way a caller comes to a lookup with a job. -/
def Offers (started : List (Caller ε α ρ)) (caller : Nat) (name key : String) (window : Duration)
    (job : Job (Except ε α)) : Prop :=
  ∃ program findings next, started[caller]? = some program ∧
    program.Leads findings (.lookup name key window job next)

/-- A computation was started by a caller and has gone on since. -/
def Traced (chronicle : Chronicle ε α ρ) (name : String) (id : Nat)
    (computation : Computation ε α) : Prop :=
  ∃ before record after caller window job answers,
    chronicle.history = before ++ record :: after ∧
    record.happening = .observed caller (.lookedUp ⟨name, computation.key, window, id, true⟩) ∧
    record.clock = computation.since ∧
    Offers chronicle.started caller name computation.key window job ∧
    job.Leads answers computation.job ∧ answers.Sublist (History.asked after)

/-- All callers have come the way that was laid down for them. -/
structure Enrolled (chronicle : Chronicle ε α ρ) : Prop where
  /-- Each caller has the number of its start. -/
  numbered : chronicle.pipeline.callers.length = chronicle.started.length
  /-- Each caller has come from what was started, and its lookups are those of the history. -/
  came : ∀ (id : Nat) (slot : Slot ε α ρ) (left : Caller ε α ρ),
    chronicle.pipeline.callers[id]? = some slot → slot.left? = some left →
    ∃ program, chronicle.started[id]? = some program ∧
      program.Came chronicle.pipeline.caches (chronicle.history.lookupsBy id) left
  /-- A caller that has not been started has looked nothing up. -/
  unstarted : ∀ id, chronicle.started.length ≤ id → chronicle.history.lookupsBy id = []

/-- All callers and all computations have come the way that was laid down for them. -/
structure Accounted (chronicle : Chronicle ε α ρ) : Prop extends chronicle.Enrolled where
  /-- Each computation has come from what a caller gave with its lookup. -/
  traced : ∀ (name : String) (id : Nat) (computation : Computation ε α),
    (chronicle.pipeline.caches.named name).computations[id]? = some computation →
    chronicle.Traced name id computation
  /-- Each computation that has lost its entry to one who waited for it has failed. -/
  failed : ∀ record ∈ chronicle.history, ∀ caller name key id,
    record.happening = .observed caller (.evicted name key id) → chronicle.Failed name id

variable {before after : Chronicle ε α ρ}

theorem Offers.append {started : List (Caller ε α ρ)} {caller : Nat} {name key : String}
    {window : Duration} {job : Job (Except ε α)} (h : Offers started caller name key window job)
    (more : List (Caller ε α ρ)) : Offers (started ++ more) caller name key window job := by
  obtain ⟨program, findings, next, hstarted, hleads⟩ := h
  have hcaller := (List.getElem?_eq_some_iff.mp hstarted).1
  exact ⟨program, findings, next, by rw [List.getElem?_append_left hcaller, hstarted], hleads⟩

/-- A computation that goes on can still be traced. -/
theorem Traced.goesOn {name : String} {id : Nat} {computation last : Computation ε α}
    {answers : Answers} {added : History} {more : List (Caller ε α ρ)}
    (h : before.Traced name id computation) (hhistory : after.history = before.history ++ added)
    (hstarted : after.started = before.started ++ more) (on : computation.GoesOn answers last)
    (recorded : answers.Sublist added.asked) : after.Traced name id last := by
  obtain ⟨earlier, record, later, caller, window, job, first, heq, hstart, hclock, hoffers, hleads,
    hasked⟩ := h
  refine ⟨earlier, record, later ++ added, caller, window, job, first ++ answers, ?_, ?_, ?_, ?_,
    hleads.trans on.leads, ?_⟩
  · rw [hhistory, heq, List.append_assoc, List.cons_append]
  · rw [on.key]
    exact hstart
  · rw [on.since]
    exact hclock
  · rw [hstarted, on.key]
    exact hoffers.append more
  · rw [History.asked, List.filterMap_append]
    exact hasked.append recorded

theorem accounted_opened (documents : Documents) :
    (opened documents : Chronicle ε α ρ).Accounted where
  numbered := rfl
  came id slot left hslot := by simp [opened, Pipeline.opened] at hslot
  unstarted _ _ := rfl
  traced name id computation hfound := by
    simp [opened, Pipeline.opened, Caches.named, Keyed.find?, AgedCache.empty] at hfound
  failed _ hrecord := absurd hrecord List.not_mem_nil

/-- The callers that a move starts are added to those that were started. -/
theorem Move.started {allowed : Event ε α ρ → Prop} (move : Move allowed before after) :
    ∃ more, after.started = before.started ++ more := by
  cases move with
  | event event => exact ⟨_, rfl⟩
  | step | finish => exact ⟨[], (List.append_nil _).symm⟩

/-- A move leaves all computations traced. -/
theorem Accounted.traced_move {allowed : Event ε α ρ → Prop} (h : before.Accounted)
    (move : Move allowed before after) (name : String) (id : Nat) (computation : Computation ε α)
    (hfound : (after.pipeline.caches.named name).computations[id]? = some computation) :
    after.Traced name id computation := by
  obtain ⟨added, hhistory, hgoOn, hnew⟩ := move.progress
  obtain ⟨more, hstarted⟩ := move.started
  cases hbefore : (before.pipeline.caches.named name).computations[id]? with
  | some earlier =>
    obtain ⟨last, answers, hlast, hgoesOn, hanswers⟩ := hgoOn name id earlier hbefore
    obtain rfl : last = computation := Option.some.inj (hlast.symm.trans hfound)
    exact (h.traced name id earlier hbefore).goesOn hhistory hstarted hgoesOn hanswers
  | none =>
    obtain ⟨caller, window, next, hrunning, hsince, rfl⟩ := hnew name id computation hbefore hfound
    obtain ⟨program, hprogram, hcame⟩ := h.came caller _ _ hrunning rfl
    generalize before.history.lookupsBy caller = lookups at hcame
    cases hcame with
    | @informed findings _ leads gave =>
      have hoffers : Offers before.started caller name computation.key window computation.job :=
        ⟨program, findings, next, hprogram, leads⟩
      refine ⟨before.history, _, [], caller, window, computation.job, [], hhistory, rfl,
        hsince.symm, ?_, .refl _, .refl []⟩
      rw [hstarted]
      exact hoffers.append more

/-- A move leaves all computations failed that have lost their entries. -/
theorem Accounted.failed_move {allowed : Event ε α ρ → Prop} (h : before.Accounted)
    (move : Move allowed before after) (record : Record) (hrecord : record ∈ after.history)
    (caller : Nat) (name key : String) (id : Nat)
    (heq : record.happening = .observed caller (.evicted name key id)) : after.Failed name id := by
  obtain ⟨added, hhistory, hadded⟩ := move.failed
  rw [hhistory, List.mem_append] at hrecord
  rcases hrecord with hold | hnew
  · obtain ⟨computation, fault, hfound, hdone⟩ := h.failed record hold caller name key id heq
    obtain ⟨_, _, hgoOn, _⟩ := move.progress
    obtain ⟨last, _, hlast, hgoesOn, _⟩ := hgoOn name id computation hfound
    have hleads := hgoesOn.leads
    rw [hdone] at hleads
    exact ⟨last, fault, hlast, hleads.of_done.2⟩
  · exact hadded record hnew caller name key id heq

/-- A caller that is not concerned by a move stays enrolled. -/
theorem Enrolled.kept (h : before.Enrolled) {answers : Answers} {more : List (Caller ε α ρ)}
    (on : before.pipeline.caches.GoOn answers after.pipeline.caches)
    (hstarted : after.started = before.started ++ more) {id : Nat}
    (hlookups : after.history.lookupsBy id = before.history.lookupsBy id) {slot : Slot ε α ρ}
    {left : Caller ε α ρ} (hslot : before.pipeline.callers[id]? = some slot)
    (hleft : slot.left? = some left) :
    ∃ program, after.started[id]? = some program ∧
      program.Came after.pipeline.caches (after.history.lookupsBy id) left := by
  obtain ⟨program, hprogram, hcame⟩ := h.came id slot left hslot hleft
  have hid := (List.getElem?_eq_some_iff.mp hprogram).1
  refine ⟨program, ?_, ?_⟩
  · rw [hstarted, List.getElem?_append_left hid, hprogram]
  · rw [hlookups]
    exact hcame.goOn on

/-- An event other than a poll is no lookup. -/
theorem lookupsBy_extend_quiet (chronicle : Chronicle ε α ρ) (event : Event ε α ρ)
    (quiet : ∀ id, event ≠ .poll id) (id : Nat) :
    (chronicle.extend [event]).history.lookupsBy id = chronicle.history.lookupsBy id := by
  have hnone : History.lookupsBy (chronicle.pipeline.history [event]) id = [] := by
    cases event with
    | poll id => exact absurd rfl (quiet id)
    | _ => rfl
  simp only [extend, History.lookupsBy_append, hnone, List.append_nil]

/-- An event other than a poll starts the callers that it says, and may drop one. -/
theorem callers_extend_quiet (chronicle : Chronicle ε α ρ) (event : Event ε α ρ)
    (quiet : ∀ id, event ≠ .poll id) :
    ∃ callers : List (Slot ε α ρ), callers.length = chronicle.pipeline.callers.length ∧
      (∀ (id : Nat) (slot : Slot ε α ρ), callers[id]? = some slot →
        slot = .dropped ∨ chronicle.pipeline.callers[id]? = some slot) ∧
      (chronicle.extend [event]).pipeline.callers =
        callers ++ (Event.started [event]).map .running := by
  have same : ∃ callers : List (Slot ε α ρ), callers.length = chronicle.pipeline.callers.length ∧
      (∀ (id : Nat) (slot : Slot ε α ρ), callers[id]? = some slot →
        slot = .dropped ∨ chronicle.pipeline.callers[id]? = some slot) ∧
      chronicle.pipeline.callers = callers ++ [] :=
    ⟨_, rfl, fun _ _ => Or.inr, (List.append_nil _).symm⟩
  cases event with
  | poll id => exact absurd rfl (quiet id)
  | start caller => exact ⟨_, rfl, fun _ _ => Or.inr, rfl⟩
  | drop id =>
    simp only [extend, Pipeline.run, Pipeline.step, Pipeline.dropCaller]
    split
    · refine ⟨_, List.length_set, fun other slot h => ?_, (List.append_nil _).symm⟩
      rw [List.getElem?_set] at h
      split at h
      · split at h
        · exact Or.inl (Option.some.inj h).symm
        · cases h
      · exact Or.inr h
    · exact same
  | pass | publish | withdraw | invalidate | clear => exact same

/-- An event other than a poll leaves all callers enrolled. -/
theorem Enrolled.event (h : before.Enrolled) (event : Event ε α ρ)
    (quiet : ∀ id, event ≠ .poll id) : (before.extend [event]).Enrolled := by
  have move : Move (fun _ => True) before (before.extend [event]) :=
    .event before event trivial quiet
  obtain ⟨_, _, hgoOn, _⟩ := move.progress
  obtain ⟨callers, hlength, hold, hcallers⟩ := before.callers_extend_quiet event quiet
  have hlookups := before.lookupsBy_extend_quiet event quiet
  have hnumbered := h.numbered
  refine ⟨?_, ?_, ?_⟩
  · rw [hcallers]
    simp only [List.length_append, List.length_map, extend]
    omega
  · intro id slot left hslot hleft
    rw [hcallers] at hslot
    by_cases hid : id < callers.length
    · rw [List.getElem?_append_left hid] at hslot
      rcases hold id slot hslot with rfl | hslot
      · cases hleft
      · exact h.kept hgoOn rfl (hlookups id) hslot hleft
    · rw [List.getElem?_append_right (by omega), List.getElem?_map,
        Option.map_eq_some_iff] at hslot
      obtain ⟨program, hprogram, rfl⟩ := hslot
      obtain rfl := Option.some.inj hleft
      refine ⟨program, ?_, ?_⟩
      · simp only [extend]
        rw [List.getElem?_append_right (by omega), ← hnumbered, ← hlength, hprogram]
      · rw [hlookups, h.unstarted id (by omega)]
        exact .informed (.refl program) fun _ _ hmember => absurd hmember List.not_mem_nil
  · intro id hid
    rw [hlookups]
    simp only [extend, List.length_append] at hid
    exact h.unstarted id (by omega)

/-- A step of a caller leaves all callers enrolled. -/
theorem Enrolled.step (h : before.Enrolled) {caller : Nat} {current : Caller ε α ρ}
    {polled : Caller.Polled ε α ρ}
    (running : before.pipeline.callers[caller]? = some (.running current))
    (step : Caller.Step before.pipeline.clock before.pipeline.documents before.pipeline.caches
      current polled) : (before.advance caller polled).Enrolled := by
  have move : Move (fun _ => True) before (before.advance caller polled) :=
    .step before running step
  obtain ⟨_, _, hgoOn, _⟩ := move.progress
  have hlength := (List.getElem?_eq_some_iff.mp running).1
  have hlookups : ∀ id, caller ≠ id →
      (before.advance caller polled).history.lookupsBy id = before.history.lookupsBy id := by
    intro id hid
    simp only [advance, Pipeline.stamp, History.lookupsBy_append, History.lookupsBy_of_ne _ hid,
      List.append_nil]
  refine ⟨?_, ?_, ?_⟩
  · simp only [advance, List.length_set, h.numbered]
  · intro id slot left hslot hleft
    by_cases hid : caller = id
    · subst hid
      simp only [advance, List.getElem?_set_self hlength] at hslot
      obtain rfl := Option.some.inj hslot
      obtain rfl := Option.some.inj hleft
      obtain ⟨program, hprogram, hcame⟩ := h.came caller _ _ running rfl
      refine ⟨program, hprogram, ?_⟩
      simp only [advance, History.lookupsBy_append]
      exact hcame.step step hgoOn caller
    · simp only [advance, List.getElem?_set_ne hid] at hslot
      exact h.kept hgoOn (List.append_nil _).symm (hlookups id hid) hslot hleft
  · intro id hid
    have hcaller : caller ≠ id := by
      have hnumbered := h.numbered
      simp only [advance] at hid
      omega
    rw [hlookups id hcaller]
    exact h.unstarted id hid

/-- The end of a caller leaves all callers enrolled. -/
theorem Enrolled.finish (h : before.Enrolled) {caller : Nat} {result : ρ}
    (running : before.pipeline.callers[caller]? = some (.running (.done result))) :
    (before.finish caller result).Enrolled := by
  have hlength := (List.getElem?_eq_some_iff.mp running).1
  refine ⟨?_, ?_, h.unstarted⟩
  · simp only [Chronicle.finish, List.length_set, h.numbered]
  · intro id slot left hslot hleft
    by_cases hid : caller = id
    · subst hid
      simp only [Chronicle.finish, List.getElem?_set_self hlength] at hslot
      obtain rfl := Option.some.inj hslot
      obtain rfl := Option.some.inj hleft
      exact h.came caller _ _ running rfl
    · simp only [Chronicle.finish, List.getElem?_set_ne hid] at hslot
      exact h.came id slot left hslot hleft

/-- A move leaves all callers and all computations accounted for. -/
theorem Accounted.move {allowed : Event ε α ρ → Prop} (h : before.Accounted)
    (move : Move allowed before after) : after.Accounted := by
  have enrolled : after.Enrolled := by
    cases move with
    | event event permitted quiet => exact h.toEnrolled.event event quiet
    | step running step => exact h.toEnrolled.step running step
    | finish running => exact h.toEnrolled.finish running
  exact ⟨enrolled, h.traced_move move, h.failed_move move⟩

/-- What a caller that is over has come by. -/
theorem Accounted.finished {chronicle : Chronicle ε α ρ} (h : chronicle.Accounted) {caller : Nat}
    {result : ρ}
    (ended : chronicle.pipeline.callers[caller]? = some (.finished result)) :
    ∃ program findings, chronicle.started[caller]? = some program ∧
      program.Leads findings (.done result) ∧
      chronicle.history.lookupsBy caller = findings.map Prod.fst ∧
      chronicle.pipeline.caches.Gave findings := by
  obtain ⟨program, hprogram, hcame⟩ := h.came caller _ _ ended rfl
  generalize hlookups : chronicle.history.lookupsBy caller = lookups at hcame
  cases hcame with
  | @informed findings _ leads gave => exact ⟨program, findings, hprogram, leads, rfl, gave⟩

/-- After every run all callers and all computations are accounted for. -/
theorem accounted_extend (documents : Documents) (events : List (Event ε α ρ)) :
    ((opened documents).extend events).Accounted :=
  invariant_run documents (accounted_opened documents) Accounted.move events fun _ _ => trivial

end Chronicle

/-- After every run there are the callers that were started. -/
theorem Pipeline.length_callers_run (documents : Documents) (events : List (Event ε α ρ)) :
    ((opened documents).run events).1.callers.length = (Event.started events).length :=
  (Chronicle.accounted_extend documents events).numbered

end RelyingParty
