import RelyingParty.Proofs.Run.Prompt

/-!
# Handing a computation over

A caller is dropped while it waits for a computation, and others go on waiting for it. The run goes
on beside the one in which the caller was not dropped: there the computation may be ahead, because
it was polled once more at the moment, but before time passes the others have taken it as far.
-/

namespace RelyingParty

variable {ε α ρ : Type}

/-- What happened to caches. -/
def History.ofCaches (history : History) : History :=
  history.filter fun record => record.happening.cache?.isSome

theorem History.ofCaches_append (first last : History) :
    ofCaches (first ++ last) = first.ofCaches ++ last.ofCaches :=
  List.filter_append ..

/-- The computation for which a caller waits, with its cache, if it waits for one. -/
def Slot.awaited? : Slot ε α ρ → Option (String × Nat)
  | .running (.awaiting name _ id _) => some (name, id)
  | _ => none

theorem Slot.awaited?_eq_some_iff {slot : Slot ε α ρ} {name : String} {id : Nat} :
    slot.awaited? = some (name, id) ↔
      ∃ key next, slot = .running (.awaiting name key id next) := by
  constructor
  · intro h
    match slot with
    | .running (.awaiting cache key place next) =>
      cases h
      exact ⟨key, next, rfl⟩
    | .running (.done _) | .running (.record ..) | .running (.lookup ..) | .finished _
    | .dropped => cases h
  · rintro ⟨key, next, rfl⟩
    rfl

namespace Pipeline

/-- A computation has come to a result. -/
def CameTo (pipeline : Pipeline ε α ρ) (name : String) (id : Nat) (result : Except ε α) : Prop :=
  ∃ computation : Computation ε α,
    (pipeline.caches.named name).computations[id]? = some computation ∧
      computation.job = .done result

/-- A caller waits for a computation. -/
def WaitsFor (pipeline : Pipeline ε α ρ) (caller : Nat) (name : String) (id : Nat) : Prop :=
  ∃ key next, pipeline.callers[caller]? = some (.running (.awaiting name key id next))

/-- A computation has come to a result, or there is a caller that waits for it. -/
def InHand (pipeline : Pipeline ε α ρ) (name : String) (id : Nat) : Prop :=
  (∃ result, pipeline.CameTo name id result) ∨ ∃ caller, pipeline.WaitsFor caller name id

/-- At any time a computation has come to a result, or there is a caller that waits for it. -/
def Watched : Pipeline ε α ρ → String → Nat → List (Event ε α ρ) → Prop
  | pipeline, name, id, [] => pipeline.InHand name id
  | pipeline, name, id, event :: events =>
    pipeline.InHand name id ∧ (pipeline.step event).1.Watched name id events

/-- Time passes, and documents change, only when a computation can do nothing at the moment. -/
def Rested : Pipeline ε α ρ → String → Nat → List (Event ε α ρ) → Prop
  | _, _, _, [] => True
  | pipeline, name, id, event :: events =>
    (event.isOuter = true → ∀ computation : Computation ε α,
      (pipeline.caches.named name).computations[id]? = some computation →
        computation.job.Rests pipeline.clock) ∧
      (pipeline.step event).1.Rested name id events

variable {pipeline other : Pipeline ε α ρ} {name : String} {id : Nat} {event : Event ε α ρ}
  {events : List (Event ε α ρ)}

theorem waitsFor_iff {caller : Nat} :
    pipeline.WaitsFor caller name id ↔
      pipeline.callers[caller]?.bind Slot.awaited? = some (name, id) := by
  rw [Option.bind_eq_some_iff]
  constructor
  · rintro ⟨key, next, hcaller⟩
    exact ⟨_, hcaller, Slot.awaited?_eq_some_iff.mpr ⟨key, next, rfl⟩⟩
  · rintro ⟨slot, hcaller, hawaited⟩
    obtain ⟨key, next, rfl⟩ := Slot.awaited?_eq_some_iff.mp hawaited
    exact ⟨key, next, hcaller⟩

instance (pipeline : Pipeline ε α ρ) (caller : Nat) (name : String) (id : Nat) :
    Decidable (pipeline.WaitsFor caller name id) :=
  decidable_of_iff _ waitsFor_iff.symm

theorem exists_waitsFor_iff :
    (∃ caller, pipeline.WaitsFor caller name id) ↔
      (name, id) ∈ pipeline.callers.filterMap Slot.awaited? := by
  constructor
  · rintro ⟨caller, hwaits⟩
    obtain ⟨slot, hcaller, hawaited⟩ := Option.bind_eq_some_iff.mp (waitsFor_iff.mp hwaits)
    exact List.mem_filterMap.mpr ⟨slot, List.mem_of_getElem? hcaller, hawaited⟩
  · intro hmember
    obtain ⟨slot, hslot, hawaited⟩ := List.mem_filterMap.mp hmember
    obtain ⟨caller, hcaller⟩ := List.mem_iff_getElem?.mp hslot
    exact ⟨caller, waitsFor_iff.mpr (Option.bind_eq_some_iff.mpr ⟨slot, hcaller, hawaited⟩)⟩

instance (pipeline : Pipeline ε α ρ) (name : String) (id : Nat) :
    Decidable (∃ caller, pipeline.WaitsFor caller name id) :=
  decidable_of_iff _ exists_waitsFor_iff.symm

theorem exists_cameTo_iff :
    (∃ result, pipeline.CameTo name id result) ↔
      ((pipeline.caches.named name).computations[id]?.bind (·.job.result?)).isSome := by
  simp only [Option.isSome_iff_exists, Option.bind_eq_some_iff]
  constructor
  · rintro ⟨result, computation, hfound, hdone⟩
    exact ⟨result, computation, hfound, by rw [hdone]; rfl⟩
  · rintro ⟨result, computation, hfound, hresult⟩
    exact ⟨result, computation, hfound, Job.eq_done_of_result? hresult⟩

instance (pipeline : Pipeline ε α ρ) (name : String) (id : Nat) :
    Decidable (∃ result, pipeline.CameTo name id result) :=
  decidable_of_iff _ exists_cameTo_iff.symm

instance (pipeline : Pipeline ε α ρ) (name : String) (id : Nat) :
    Decidable (pipeline.InHand name id) :=
  inferInstanceAs (Decidable (_ ∨ _))

instance decidableWatched (pipeline : Pipeline ε α ρ) (name : String) (id : Nat) :
    (events : List (Event ε α ρ)) → Decidable (pipeline.Watched name id events)
  | [] => inferInstanceAs (Decidable (pipeline.InHand name id))
  | event :: events =>
    have := decidableWatched (pipeline.step event).1 name id events
    inferInstanceAs (Decidable (_ ∧ _))

/-- A computation has come to the value that can be read off it. -/
theorem cameTo_of_value? {value : α}
    (h : ((pipeline.caches.named name).computations[id]?.bind fun computation =>
      computation.job.result?.bind Except.toOption) = some value) :
    pipeline.CameTo name id (.ok value) := by
  obtain ⟨computation, hfound, hresult⟩ := Option.bind_eq_some_iff.mp h
  obtain ⟨result, hdone, hvalue⟩ := Option.bind_eq_some_iff.mp hresult
  cases result with
  | error => cases hvalue
  | ok other =>
    obtain rfl := Option.some.inj hvalue
    exact ⟨computation, hfound, Job.eq_done_of_result? hdone⟩

/-- A computation that is watched can do nothing when time passes in a prompt run. -/
theorem Watched.rested (h : pipeline.Watched name id events) (prompt : pipeline.Prompt events) :
    pipeline.Rested name id events := by
  induction events generalizing pipeline with
  | nil => trivial
  | cons event rest ih =>
    refine ⟨fun outer computation hfound => ?_, ih h.2 prompt.2⟩
    rcases h.1 with ⟨result, same, hsame, hdone⟩ | ⟨caller, key, next, hcaller⟩
    · obtain rfl := Option.some.inj (hfound.symm.trans hsame)
      exact Or.inl ⟨result, hdone⟩
    · exact prompt.1 outer caller _ hcaller computation hfound

/-- A computation has come to a result exactly when it comes to it at each moment, having no need to
go on. -/
theorem CameTo.due {result : Except ε α} (h : pipeline.CameTo name id result) :
    pipeline.caches.due pipeline.clock pipeline.documents name id = some (.done result) := by
  obtain ⟨computation, hfound, hdone⟩ := h
  rw [Caches.due, AgedCache.due, hfound, Option.map_some, hdone]
  rfl

theorem due_of_computations {first last : Caches ε α} {now : Nat} {documents : Documents}
    (h : (last.named name).computations = (first.named name).computations) :
    last.due now documents name id = first.due now documents name id := by
  rw [Caches.due, AgedCache.due, h]
  rfl

/-- What a computation comes to at a moment it comes to in the end, if it can do nothing when time
passes. -/
theorem Rested.due_step {result : Except ε α} (h : pipeline.Rested name id (event :: events))
    (due : pipeline.caches.due pipeline.clock pipeline.documents name id = some (.done result)) :
    (pipeline.step event).1.caches.due (pipeline.step event).1.clock
      (pipeline.step event).1.documents name id = some (.done result) := by
  have houter (outer : event.isOuter = true) (now : Nat) (documents : Documents) :
      pipeline.caches.due now documents name id = some (.done result) := by
    obtain ⟨computation, hfound, hdone⟩ := Option.map_eq_some_iff.mp due
    have hrests := (h.1 outer computation hfound).poll pipeline.documents
    rw [Caches.due, AgedCache.due, hfound, Option.map_some, ← hrests, hdone]
    rfl
  cases event with
  | pass | publish | withdraw => exact houter rfl _ _
  | poll caller =>
    simp only [step, pollCaller]
    split
    · next running _ => exact running.due_poll due
    · exact due
  | start => exact due
  | drop caller =>
    obtain ⟨callers, hdrop⟩ := pipeline.dropCaller_eq caller
    simp only [step, hdrop]
    exact due
  | invalidate cache key | clear cache =>
    rw [← due]
    refine due_of_computations ?_
    simp only [step, changeCache, Caches.named_put]
    split
    · next heq => rw [heq]; rfl
    · rfl

theorem Rested.due_run {result : Except ε α} (h : pipeline.Rested name id events)
    (due : pipeline.caches.due pipeline.clock pipeline.documents name id = some (.done result)) :
    (pipeline.run events).1.caches.due (pipeline.run events).1.clock
      (pipeline.run events).1.documents name id = some (.done result) := by
  induction events generalizing pipeline with
  | nil => exact due
  | cons event rest ih => exact ih h.2 (h.due_step due)

/-- How a run in which a caller was dropped that waited for a computation stands beside the one in
which it was not. -/
structure Beside (caller : Nat) (name : String) (id : Nat)
    (pipeline other : Pipeline ε α ρ) : Prop where
  /-- It is the same moment. -/
  clock : other.clock = pipeline.clock
  /-- There are the same documents. -/
  documents : other.documents = pipeline.documents
  /-- Equally many callers have been started. -/
  length : other.callers.length = pipeline.callers.length
  /-- All other callers have come equally far. -/
  callers : ∀ place, place ≠ caller → other.callers[place]? = pipeline.callers[place]?
  /-- The caller was dropped. -/
  dropped : pipeline.callers[caller]? = some .dropped
  /-- If it is still running in the other run, it waits for the computation, and is done then. -/
  waits : ∀ running, other.callers[caller]? = some (.running running) →
    ∃ (key : String) (next : Nat → Except ε α → ρ),
      running = .awaiting name key id fun id result => .done (next id result)
  /-- At most the computation is ahead. -/
  caches : ∃ on, Job.Pace pipeline.clock pipeline.documents on ∧
    Caches.Ahead name id on pipeline.caches other.caches

variable {caller : Nat}

theorem ofCaches_records_poll (pipeline : Pipeline ε α ρ) (caller : Nat) :
    (pipeline.records (.poll caller)).ofCaches =
      ((pipeline.pollCaller caller).2.filter Observation.isOfCache).map fun observation =>
        pipeline.stamp (.observed caller observation) := by
  rw [records, History.ofCaches, List.filter_map]
  congr 1
  refine List.filter_congr fun observation _ => ?_
  cases observation <;> rfl

theorem Beside.stamp (h : Beside caller name id pipeline other) (happening : Happening) :
    other.stamp happening = pipeline.stamp happening := by
  rw [Pipeline.stamp, Pipeline.stamp, h.clock, h.documents]

/-- A computation that comes to a result at a moment is not seen to fail if it succeeds in the
end. -/
def Prospers (pipeline : Pipeline ε α ρ) (name : String) (id : Nat) : Prop :=
  ∀ fault, pipeline.caches.due pipeline.clock pipeline.documents name id ≠
    some (.done (.error fault))

/-- When the caller that was dropped is polled in the other run, at most the computation goes on. -/
theorem Beside.poll_self (h : Beside caller name id pipeline other)
    (prospers : pipeline.Prospers name id) :
    Beside caller name id pipeline (other.pollCaller caller).1 ∧
      (other.records (.poll caller)).ofCaches = [] := by
  rw [ofCaches_records_poll]
  cases hslot : other.callers[caller]? with
  | none =>
    simp only [pollCaller, hslot]
    exact ⟨h, rfl⟩
  | some slot =>
    cases slot with
    | finished | dropped =>
      simp only [pollCaller, hslot]
      exact ⟨h, rfl⟩
    | running running =>
      obtain ⟨key, next, rfl⟩ := h.waits running hslot
      obtain ⟨on, hpace, hahead⟩ := h.caches
      have hid := (List.getElem?_eq_some_iff.mp hslot).1
      obtain ⟨hseen, hfarther⟩ := hahead.await_self hpace key prospers
      rw [← h.clock, ← h.documents] at hseen hfarther
      have hpoll (slot : Slot ε α ρ) (caches : Caches ε α)
          (hslot : ∀ running, slot = .running running → ∃ (key : String)
            (next : Nat → Except ε α → ρ),
            running = .awaiting name key id fun id result => .done (next id result))
          (hcaches : caches = (other.caches.await other.clock other.documents name key id).caches) :
          Beside caller name id pipeline
            { other with caches, callers := other.callers.set caller slot } := by
        refine ⟨h.clock, h.documents, ?_, fun place hplace => ?_, h.dropped, ?_, ?_⟩
        · rw [List.length_set, h.length]
        · rw [List.getElem?_set_ne (Ne.symm hplace), h.callers place hplace]
        · intro running hrunning
          rw [List.getElem?_set_self hid] at hrunning
          exact hslot running (Option.some.inj hrunning)
        · refine ⟨_, .goes, ?_⟩
          rw [hcaches, ← h.clock, ← h.documents]
          exact hfarther
      simp only [pollCaller, hslot, Caller.poll]
      cases hresult : (other.caches.await other.clock other.documents name key id).result with
      | none =>
        refine ⟨hpoll _ _ (fun running heq => ?_) rfl, by rw [hseen]; rfl⟩
        exact ⟨key, next, (Slot.running.inj heq).symm⟩
      | some result =>
        refine ⟨hpoll _ _ (fun running heq => by cases heq) rfl, ?_⟩
        simp only [Caller.Polled.after, List.append_nil, hseen]
        rfl

/-- When another caller is polled both runs go on alike. -/
theorem Beside.poll (h : Beside caller name id pipeline other) {place : Nat}
    (different : place ≠ caller) :
    Beside caller name id (pipeline.pollCaller place).1 (other.pollCaller place).1 ∧
      (other.records (.poll place)).ofCaches = (pipeline.records (.poll place)).ofCaches := by
  rw [ofCaches_records_poll, ofCaches_records_poll]
  have hstamp : (fun observation => other.stamp (.observed place observation)) =
      fun observation => pipeline.stamp (.observed place observation) :=
    funext fun observation => h.stamp _
  have hplace := h.callers place different
  cases hslot : pipeline.callers[place]? with
  | none =>
    rw [hslot] at hplace
    simp only [pollCaller, hslot, hplace]
    exact ⟨h, rfl⟩
  | some slot =>
    rw [hslot] at hplace
    cases slot with
    | finished | dropped =>
      simp only [pollCaller, hslot, hplace]
      exact ⟨h, rfl⟩
    | running running =>
      obtain ⟨on, hpace, hahead⟩ := h.caches
      have halike := running.poll_ahead hpace hahead
      simp only [pollCaller, hslot, hplace, h.clock, h.documents]
      refine ⟨⟨rfl, rfl, ?_, ?_, ?_, ?_, halike.caches⟩, ?_⟩
      · rw [List.length_set, List.length_set, h.length]
      · intro another hanother
        rw [halike.caller, List.getElem?_set, List.getElem?_set, h.length,
          h.callers another hanother]
      · rw [List.getElem?_set_ne different]
        exact h.dropped
      · intro waiting hwaiting
        rw [List.getElem?_set_ne different] at hwaiting
        exact h.waits waiting hwaiting
      · rw [halike.seen, hstamp]

/-- Both runs go on alike when time passes or documents change, as long as the computation can do
nothing then. -/
theorem Beside.outer (h : Beside caller name id pipeline other)
    (rested : pipeline.Rested name id (event :: events)) (outer : event.isOuter = true)
    (now : Nat) (documents : Documents) :
    Beside caller name id { pipeline with clock := now, documents }
      { other with clock := now, documents } := by
  obtain ⟨on, hpace, hahead⟩ := h.caches
  refine ⟨rfl, rfl, h.length, h.callers, h.dropped, h.waits, _, .stays, hahead.there, ?_⟩
  intro cache
  rw [hahead.named]
  split
  · -- the computation has come as far as it comes, so it is not ahead in the other run
    refine AgedCache.ext_getElem? rfl fun place => ?_
    rw [AgedCache.getElem?_proceed, AgedCache.getElem?_proceed]
    cases hfound : (pipeline.caches.named cache).computations[place]? with
    | none => rfl
    | some computation =>
      next hcache =>
      subst hcache
      by_cases hplace : id = place
      · subst hplace
        have hrests := rested.1 outer computation hfound
        simp only [Option.map_some, if_true, hpace.of_rests hrests]
      · simp only [Option.map_some, if_neg hplace]
  · rfl

/-- Both runs go on alike when a caller is started. -/
theorem Beside.start (h : Beside caller name id pipeline other) (program : Caller ε α ρ) :
    Beside caller name id (pipeline.step (.start program)).1 (other.step (.start program)).1 := by
  have hcaller := (List.getElem?_eq_some_iff.mp h.dropped).1
  refine ⟨h.clock, h.documents, ?_, fun place hplace => ?_, ?_, fun running hrunning => ?_,
    h.caches⟩
  · simp only [step, List.length_append, h.length]
  · simp only [step]
    rcases Nat.lt_or_ge place pipeline.callers.length with hold | hnew
    · rw [List.getElem?_append_left (h.length.symm ▸ hold), List.getElem?_append_left hold,
        h.callers place hplace]
    · rw [List.getElem?_append_right (h.length.symm ▸ hnew), List.getElem?_append_right hnew,
        h.length]
  · simp only [step]
    rw [List.getElem?_append_left hcaller, h.dropped]
  · simp only [step] at hrunning
    rw [List.getElem?_append_left (h.length.symm ▸ hcaller)] at hrunning
    exact h.waits running hrunning

/-- Both runs go on alike when a caller is dropped, be it the same. -/
theorem Beside.drop (h : Beside caller name id pipeline other) (place : Nat) :
    Beside caller name id (pipeline.step (.drop place)).1 (other.step (.drop place)).1 := by
  simp only [Pipeline.step]
  by_cases hplace : place = caller
  · subst hplace
    have hnothing : pipeline.dropCaller place = pipeline := by
      simp only [dropCaller, h.dropped]
    rw [hnothing]
    unfold dropCaller
    split
    · refine ⟨h.clock, h.documents, ?_, fun other hother => ?_, h.dropped,
        fun running hrunning => ?_, h.caches⟩
      · rw [List.length_set, h.length]
      · rw [List.getElem?_set_ne (Ne.symm hother), h.callers other hother]
      · rw [List.getElem?_set] at hrunning
        split at hrunning
        · split at hrunning <;> cases hrunning
        · exact h.waits running hrunning
    · exact h
  · have hslot := h.callers place hplace
    unfold dropCaller
    rw [hslot]
    split
    · refine ⟨h.clock, h.documents, ?_, fun another hanother => ?_, ?_, fun running hrunning => ?_,
        h.caches⟩
      · rw [List.length_set, List.length_set, h.length]
      · rw [List.getElem?_set, List.getElem?_set, h.length, h.callers another hanother]
      · rw [List.getElem?_set_ne hplace, h.dropped]
      · rw [List.getElem?_set_ne hplace] at hrunning
        exact h.waits running hrunning
    · exact h

/-- Both runs go on alike when entries are taken away. -/
theorem Beside.change (h : Beside caller name id pipeline other) (cache : String)
    (change : AgedCache ε α → AgedCache ε α)
    (computations : ∀ aged, (change aged).computations = aged.computations)
    (entries : ∀ aged on, change (AgedCache.proceed aged id on) = (change aged).proceed id on) :
    Beside caller name id (pipeline.changeCache cache change) (other.changeCache cache change) := by
  obtain ⟨on, hpace, hahead⟩ := h.caches
  refine ⟨h.clock, h.documents, h.length, h.callers, h.dropped, h.waits, on, hpace, ?_,
    fun place => ?_⟩
  · simp only [changeCache, Caches.named_put]
    split
    · next heq =>
      rw [computations, ← heq]
      exact hahead.there
    · exact hahead.there
  · simp only [changeCache, Caches.named_put, hahead.named]
    by_cases hplace : place = cache
    · subst hplace
      simp only [if_true]
      split
      · exact entries _ _
      · rfl
    · simp only [if_neg hplace]

/-- Both runs go on alike. -/
theorem Beside.step (h : Beside caller name id pipeline other)
    (rested : pipeline.Rested name id (event :: events))
    (prospers : pipeline.Prospers name id) :
    Beside caller name id (pipeline.step event).1 (other.step event).1 ∧
      (other.records event).ofCaches = (pipeline.records event).ofCaches := by
  cases event with
  | poll place =>
    by_cases hplace : place = caller
    · subst hplace
      have hnothing : pipeline.pollCaller place = (pipeline, []) := by
        simp only [pollCaller, h.dropped]
      obtain ⟨hbeside, hnone⟩ := h.poll_self prospers
      refine ⟨?_, ?_⟩
      · simp only [Pipeline.step, hnothing]
        exact hbeside
      · rw [hnone, ofCaches_records_poll, hnothing]
        rfl
    · exact h.poll hplace
  | pass | publish | withdraw =>
    refine ⟨?_, rfl⟩
    simp only [Pipeline.step, h.clock, h.documents]
    exact h.outer rested rfl _ _
  | start program => exact ⟨h.start program, rfl⟩
  | drop place => exact ⟨h.drop place, rfl⟩
  | invalidate cache key =>
    refine ⟨h.change cache (·.invalidate key) (fun _ => rfl) fun _ _ => rfl, ?_⟩
    rw [records, records, h.stamp]
  | clear cache =>
    refine ⟨h.change cache AgedCache.clear (fun _ => rfl) fun _ _ => rfl, ?_⟩
    rw [records, records, h.stamp]

/-- A computation that can do nothing when time passes and succeeds in the end has not failed
before. -/
theorem Rested.prospers {value : α} (h : pipeline.Rested name id events)
    (succeeds : (pipeline.run events).1.CameTo name id (.ok value)) :
    pipeline.Prospers name id := by
  intro fault hfault
  have hlast := h.due_run hfault
  rw [succeeds.due] at hlast
  cases Job.done.inj (Option.some.inj hlast)

/-- Both runs go on alike as long as the computation can do nothing when time passes, if it succeeds
in the end. -/
theorem Beside.run {value : α} {before after : List (Event ε α ρ)}
    (h : Beside caller name id pipeline other)
    (rested : pipeline.Rested name id (before ++ after))
    (succeeds : (pipeline.run (before ++ after)).1.CameTo name id (.ok value)) :
    Beside caller name id (pipeline.run before).1 (other.run before).1 ∧
      (other.history before).ofCaches = (pipeline.history before).ofCaches := by
  induction before generalizing pipeline other with
  | nil => exact ⟨h, rfl⟩
  | cons event rest ih =>
    obtain ⟨hstep, hrecords⟩ := h.step rested (rested.prospers succeeds)
    obtain ⟨hlast, hhistory⟩ := ih hstep rested.2 succeeds
    refine ⟨hlast, ?_⟩
    rw [history, history, History.ofCaches_append, History.ofCaches_append, hrecords, hhistory]

/-- When a caller is dropped that waits for a computation, the run stands beside the one in which it
is not. -/
theorem beside_drop {key : String} {next : Nat → Except ε α → ρ}
    (waiting : pipeline.callers[caller]? =
      some (.running (.awaiting name key id fun id result => .done (next id result))))
    (there : id < (pipeline.caches.named name).computations.length) :
    Beside caller name id (pipeline.step (.drop caller)).1 pipeline := by
  have hid := (List.getElem?_eq_some_iff.mp waiting).1
  simp only [Pipeline.step, dropCaller, waiting]
  refine ⟨rfl, rfl, ?_, fun place hplace => ?_, ?_, fun running hrunning => ?_, _, .stays,
    .refl there⟩
  · rw [List.length_set]
  · rw [List.getElem?_set_ne (Ne.symm hplace)]
  · rw [List.getElem?_set_self hid]
  · exact ⟨key, next, Slot.running.inj (Option.some.inj (hrunning.symm.trans waiting))⟩

/-- Two runs agree on everything but one caller: it is the same moment, all other callers have come
equally far, and all caches have the same entries. -/
structure AgreesBut (caller : Nat) (pipeline other : Pipeline ε α ρ) : Prop where
  /-- It is the same moment. -/
  clock : other.clock = pipeline.clock
  /-- There are the same documents. -/
  documents : other.documents = pipeline.documents
  /-- All other callers have come equally far. -/
  callers : ∀ place, place ≠ caller → other.callers[place]? = pipeline.callers[place]?
  /-- All caches have the same entries. -/
  entries : ∀ name, (other.caches.named name).entries = (pipeline.caches.named name).entries

theorem Beside.agreesBut (h : Beside caller name id pipeline other) :
    AgreesBut caller pipeline other := by
  obtain ⟨_, _, hahead⟩ := h.caches
  exact ⟨h.clock, h.documents, h.callers, hahead.entries⟩

end Pipeline

end RelyingParty
