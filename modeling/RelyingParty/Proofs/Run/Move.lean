import RelyingParty.Proofs.Run.History
import Mathlib.Logic.Relation

/-!
# Moves

An event may do much at once: a caller that is polled goes on as far as it comes. Here a run is cut
into moves, each of which changes at most one caller and one cache. What every move keeps holds at
the end of every run.
-/

namespace RelyingParty

variable {ε α ρ : Type}

namespace Caller

/-- How a caller goes on by one step. -/
inductive Step (now : Nat) (documents : Documents) :
    Caches ε α → Caller ε α ρ → Polled ε α ρ → Prop where
  /-- It counts something. -/
  | record (caches : Caches ε α) (metric : Metric) (next : Caller ε α ρ) :
    Step now documents caches (.record metric next) ⟨caches, next, [.recorded metric]⟩
  /-- It finds a computation and waits for it. -/
  | lookup (caches : Caches ε α) (name key : String) (window : Duration)
    (job : Job (Except ε α)) (next : Nat → Except ε α → Caller ε α ρ) :
    Step now documents caches (.lookup name key window job next)
      ⟨Keyed.put name ((caches.named name).lookup now key window job).cache caches,
        .awaiting name key ((caches.named name).lookup now key window job).id next,
        [.lookedUp ⟨name, key, window, ((caches.named name).lookup now key window job).id,
          ((caches.named name).lookup now key window job).isNew⟩]⟩
  /-- The computation that it waits for is over. -/
  | resume (caches : Caches ε α) (name key : String) (id : Nat)
    (next : Nat → Except ε α → Caller ε α ρ) {result : Except ε α}
    (ended : (caches.await now documents name key id).result = some result) :
    Step now documents caches (.awaiting name key id next)
      ⟨(caches.await now documents name key id).caches, next id result,
        (caches.await now documents name key id).seen⟩
  /-- The computation that it waits for goes on. -/
  | wait (caches : Caches ε α) (name key : String) (id : Nat)
    (next : Nat → Except ε α → Caller ε α ρ)
    (running : (caches.await now documents name key id).result = none) :
    Step now documents caches (.awaiting name key id next)
      ⟨(caches.await now documents name key id).caches, .awaiting name key id next,
        (caches.await now documents name key id).seen⟩

/-- How a caller goes on by some steps. -/
inductive Steps (now : Nat) (documents : Documents) :
    Caches ε α → Caller ε α ρ → Polled ε α ρ → Prop where
  /-- No step at all. -/
  | refl (caches : Caches ε α) (caller : Caller ε α ρ) :
    Steps now documents caches caller ⟨caches, caller, []⟩
  /-- A step and then others. -/
  | head {caches : Caches ε α} {caller : Caller ε α ρ} {first last : Polled ε α ρ}
    (step : Step now documents caches caller first)
    (rest : Steps now documents first.caches first.caller last) :
    Steps now documents caches caller (last.after first.seen)

/-- A single step. -/
theorem Step.single {now : Nat} {documents : Documents} {caches : Caches ε α}
    {caller : Caller ε α ρ} {polled : Polled ε α ρ}
    (step : Step now documents caches caller polled) :
    Steps now documents caches caller polled := by
  have h := Steps.head step (.refl _ _)
  simpa only [Polled.after, List.append_nil] using h

/-- A lookup is followed by the wait for what it has found. -/
theorem poll_lookup (now : Nat) (documents : Documents) (caches : Caches ε α)
    (name key : String) (window : Duration) (job : Job (Except ε α))
    (next : Nat → Except ε α → Caller ε α ρ) :
    (lookup name key window job next).poll now documents caches =
      ((awaiting name key ((caches.named name).lookup now key window job).id next).poll now
        documents (Keyed.put name ((caches.named name).lookup now key window job).cache
          caches)).after [.lookedUp ⟨name, key, window,
            ((caches.named name).lookup now key window job).id,
            ((caches.named name).lookup now key window job).isNew⟩] := by
  simp only [poll, Polled.after]
  split <;> simp

/-- Who waits for a computation only is done when there is a result. -/
theorem poll_awaiting_done (now : Nat) (documents : Documents) (caches : Caches ε α)
    (name key : String) (id : Nat) (next : Nat → Except ε α → ρ) :
    (awaiting name key id fun id result => .done (next id result)).poll now documents caches =
      ⟨(caches.await now documents name key id).caches,
        match (caches.await now documents name key id).result with
        | some result => .done (next id result)
        | none => .awaiting name key id fun id result => .done (next id result),
        (caches.await now documents name key id).seen⟩ := by
  rw [poll]
  cases (caches.await now documents name key id).result with
  | some result => simp only [poll, Polled.after, List.append_nil]
  | none => rfl

/-- What a poll comes to is reached by steps. -/
theorem steps_poll (now : Nat) (documents : Documents) (caller : Caller ε α ρ)
    (caches : Caches ε α) :
    Steps now documents caches caller (caller.poll now documents caches) := by
  -- a lookup and the wait that follows it are two steps, so waiting is settled apart
  have hawait (name key : String) (id : Nat) (next : Nat → Except ε α → Caller ε α ρ)
      (ih : ∀ id result caches,
        Steps now documents caches (next id result) ((next id result).poll now documents caches))
      (caches : Caches ε α) :
      Steps now documents caches (.awaiting name key id next)
        ((awaiting name key id next).poll now documents caches) := by
    simp only [poll]
    split
    · next result ended =>
      exact .head (.resume caches name key id next ended) (ih id result _)
    · next running => exact (Step.wait caches name key id next running).single
  induction caller generalizing caches with
  | done result => exact .refl caches _
  | record metric next ih => exact .head (.record caches metric next) (ih caches)
  | lookup name key window job next ih =>
    rw [poll_lookup]
    exact .head (.lookup caches name key window job next) (hawait name key _ next ih _)
  | awaiting name key id next ih => exact hawait name key id next ih caches

/-- What is left of a caller that has a result is the result. -/
theorem eq_done_of_result? {caller : Caller ε α ρ} {result : ρ}
    (h : caller.result? = some result) : caller = .done result := by
  cases caller with
  | done other => exact congrArg Caller.done (Option.some.inj h)
  | _ => simp [result?] at h

end Caller

/-- A run so far: its state, the callers that were started, and what happened. -/
structure Chronicle (ε α ρ : Type) where
  /-- The state. -/
  pipeline : Pipeline ε α ρ
  /-- The callers that were started, as they were then. -/
  started : List (Caller ε α ρ)
  /-- What happened. -/
  history : History

namespace Chronicle

/-- A run that has not begun. -/
def opened (documents : Documents) : Chronicle ε α ρ := ⟨.opened documents, [], []⟩

/-- A run after some more events. -/
def extend (chronicle : Chronicle ε α ρ) (events : List (Event ε α ρ)) : Chronicle ε α ρ where
  pipeline := (chronicle.pipeline.run events).1
  started := chronicle.started ++ Event.started events
  history := chronicle.history ++ chronicle.pipeline.history events

/-- The run after a caller has come to another state and something was observed. -/
def advance (chronicle : Chronicle ε α ρ) (id : Nat) (polled : Caller.Polled ε α ρ) :
    Chronicle ε α ρ where
  pipeline := { chronicle.pipeline with
    caches := polled.caches
    callers := chronicle.pipeline.callers.set id (.running polled.caller) }
  started := chronicle.started
  history := chronicle.history ++
    polled.seen.map fun observation => chronicle.pipeline.stamp (.observed id observation)

/-- The run after a caller has come to its end. -/
def finish (chronicle : Chronicle ε α ρ) (id : Nat) (result : ρ) : Chronicle ε α ρ :=
  { chronicle with
    pipeline := { chronicle.pipeline with
      callers := chronicle.pipeline.callers.set id (.finished result) } }

/-- How a run goes on by one move, in which only `allowed` events happen. -/
inductive Move (allowed : Event ε α ρ → Prop) : Chronicle ε α ρ → Chronicle ε α ρ → Prop where
  /-- An event other than a poll. -/
  | event (chronicle : Chronicle ε α ρ) (event : Event ε α ρ) (permitted : allowed event)
    (quiet : ∀ id, event ≠ .poll id) : Move allowed chronicle (chronicle.extend [event])
  /-- One step of a caller. -/
  | step (chronicle : Chronicle ε α ρ) {id : Nat} {caller : Caller ε α ρ}
    {polled : Caller.Polled ε α ρ}
    (running : chronicle.pipeline.callers[id]? = some (.running caller))
    (step : Caller.Step chronicle.pipeline.clock chronicle.pipeline.documents
      chronicle.pipeline.caches caller polled) :
    Move allowed chronicle (chronicle.advance id polled)
  /-- The end of a caller. -/
  | finish (chronicle : Chronicle ε α ρ) {id : Nat} {result : ρ}
    (running : chronicle.pipeline.callers[id]? = some (.running (.done result))) :
    Move allowed chronicle (chronicle.finish id result)

/-- How a run goes on by some moves. -/
abbrev Moves (allowed : Event ε α ρ → Prop) : Chronicle ε α ρ → Chronicle ε α ρ → Prop :=
  Relation.ReflTransGen (Move allowed)

theorem extend_nil (chronicle : Chronicle ε α ρ) : chronicle.extend [] = chronicle := by
  simp [extend, Pipeline.run, Pipeline.history, Event.started]

theorem extend_cons (chronicle : Chronicle ε α ρ) (event : Event ε α ρ)
    (rest : List (Event ε α ρ)) :
    chronicle.extend (event :: rest) = (chronicle.extend [event]).extend rest := by
  simp only [extend, Pipeline.run, Pipeline.history, List.append_nil, List.append_assoc]
  rw [← Event.started_append, List.singleton_append]

theorem extend_append (chronicle : Chronicle ε α ρ) (first last : List (Event ε α ρ)) :
    chronicle.extend (first ++ last) = (chronicle.extend first).extend last := by
  induction first generalizing chronicle with
  | nil => rw [extend_nil, List.nil_append]
  | cons event rest ih => rw [List.cons_append, extend_cons, ih, ← extend_cons]

/-- A caller that takes no step changes nothing. -/
theorem advance_self (chronicle : Chronicle ε α ρ) {id : Nat} {caller : Caller ε α ρ}
    (running : chronicle.pipeline.callers[id]? = some (.running caller)) :
    chronicle.advance id ⟨chronicle.pipeline.caches, caller, []⟩ = chronicle := by
  obtain ⟨hid, hget⟩ := List.getElem?_eq_some_iff.mp running
  have hset : chronicle.pipeline.callers.set id (.running caller) =
      chronicle.pipeline.callers := by
    rw [← hget, List.set_getElem_self]
  simp only [advance, hset, List.map_nil, List.append_nil]

theorem advance_advance (chronicle : Chronicle ε α ρ) (id : Nat)
    (first last : Caller.Polled ε α ρ) :
    (chronicle.advance id first).advance id last =
      chronicle.advance id (last.after first.seen) := by
  simp only [advance, Caller.Polled.after, Pipeline.stamp, List.set_set, List.map_append,
    List.append_assoc]

/-- The steps of a caller are moves of the run. -/
theorem moves_advance {allowed : Event ε α ρ → Prop} {id now : Nat} {documents : Documents}
    {caches : Caches ε α} {caller : Caller ε α ρ} {polled : Caller.Polled ε α ρ}
    (steps : Caller.Steps now documents caches caller polled) (chronicle : Chronicle ε α ρ)
    (hnow : chronicle.pipeline.clock = now) (hdocuments : chronicle.pipeline.documents = documents)
    (hcaches : chronicle.pipeline.caches = caches)
    (running : chronicle.pipeline.callers[id]? = some (.running caller)) :
    Moves allowed chronicle (chronicle.advance id polled) := by
  induction steps generalizing chronicle with
  | refl caches caller =>
    rw [← hcaches, chronicle.advance_self running]
  | @head caches caller first last step rest ih =>
    subst hnow hdocuments hcaches
    have hid := (List.getElem?_eq_some_iff.mp running).1
    have hmove : Move allowed chronicle (chronicle.advance id first) := .step chronicle running step
    have hlast := ih (chronicle.advance id first) rfl rfl rfl
      (by simp only [advance, List.getElem?_set_self hid])
    rw [advance_advance] at hlast
    exact .head hmove hlast

/-- A poll is made of moves. -/
theorem moves_poll {allowed : Event ε α ρ → Prop} (chronicle : Chronicle ε α ρ) (id : Nat) :
    Moves allowed chronicle (chronicle.extend [.poll id]) := by
  match hslot : chronicle.pipeline.callers[id]? with
  | some (.running caller) =>
    have hid := (List.getElem?_eq_some_iff.mp hslot).1
    let polled := caller.poll chronicle.pipeline.clock chronicle.pipeline.documents
      chronicle.pipeline.caches
    have hmoves : Moves allowed chronicle (chronicle.advance id polled) :=
      moves_advance (Caller.steps_poll _ _ caller _) chronicle rfl rfl rfl hslot
    cases hresult : polled.caller.result? with
    | none =>
      have hextend : chronicle.extend [.poll id] = chronicle.advance id polled := by
        simp only [extend, advance, Pipeline.run, Pipeline.history, Pipeline.step,
          Pipeline.records, Pipeline.pollCaller, hslot, polled] at hresult ⊢
        simp [hresult, Event.started]
      rw [hextend]
      exact hmoves
    | some result =>
      have hdone := Caller.eq_done_of_result? hresult
      have hextend : chronicle.extend [.poll id] =
          (chronicle.advance id polled).finish id result := by
        simp only [extend, advance, finish, Pipeline.run, Pipeline.history, Pipeline.step,
          Pipeline.records, Pipeline.pollCaller, hslot, polled] at hresult ⊢
        simp [hresult, Event.started]
      rw [hextend]
      refine hmoves.tail (.finish _ ?_)
      simp only [advance, List.getElem?_set_self hid, hdone]
  | none | some (.finished _) | some .dropped =>
    have hextend : chronicle.extend [.poll id] = chronicle := by
      simp [extend, Pipeline.run, Pipeline.history, Pipeline.step, Pipeline.records,
        Pipeline.pollCaller, hslot, Event.started]
    rw [hextend]

/-- A run is made of moves. -/
theorem moves_extend {allowed : Event ε α ρ → Prop} (chronicle : Chronicle ε α ρ)
    (events : List (Event ε α ρ)) (permitted : ∀ event ∈ events, allowed event) :
    Moves allowed chronicle (chronicle.extend events) := by
  induction events generalizing chronicle with
  | nil => rw [extend_nil]
  | cons event rest ih =>
    have hfirst : Moves allowed chronicle (chronicle.extend [event]) := by
      by_cases hpoll : ∃ id, event = .poll id
      · obtain ⟨id, rfl⟩ := hpoll
        exact chronicle.moves_poll id
      · have quiet : ∀ id, event ≠ .poll id := fun id h => hpoll ⟨id, h⟩
        exact .single (.event chronicle event (permitted event List.mem_cons_self) quiet)
    rw [extend_cons]
    refine hfirst.trans (ih _ ?_)
    intro other hother
    exact permitted other (List.mem_cons_of_mem _ hother)

/-- What holds at the beginning and is kept by every move holds at the end of every run. -/
theorem invariant_run {allowed : Event ε α ρ → Prop} {invariant : Chronicle ε α ρ → Prop}
    (documents : Documents) (beginning : invariant (.opened documents))
    (kept : ∀ {before after : Chronicle ε α ρ},
      invariant before → Move allowed before after → invariant after)
    (events : List (Event ε α ρ)) (permitted : ∀ event ∈ events, allowed event) :
    invariant ((opened documents).extend events) := by
  have hmoves := (opened documents).moves_extend events permitted
  generalize (opened documents).extend events = last at hmoves ⊢
  induction hmoves with
  | refl => exact beginning
  | tail _ hmove ih => exact kept ih hmove

end Chronicle

end RelyingParty
