import RelyingParty.Proofs.Cache.Change

/-!
# Progress of computations

What a move of a run does to the computations of a cache. Each of them is still there afterwards and
has at most gone on, with answers that the history tells; and there is at most one new, which is the
job that a caller gave with its lookup.
-/

namespace RelyingParty

variable {ε α ρ : Type}

/-- A computation goes on, with some answers. -/
structure Computation.GoesOn (first : Computation ε α) (answers : Answers)
    (last : Computation ε α) : Prop where
  /-- It is for the same key. -/
  key : last.key = first.key
  /-- It was started at the same moment. -/
  since : last.since = first.since
  /-- Its job comes, with the answers, to what is left of it. -/
  leads : first.job.Leads answers last.job

theorem Computation.GoesOn.refl (computation : Computation ε α) :
    computation.GoesOn [] computation :=
  ⟨rfl, rfl, .refl _⟩

namespace AgedCache

/-- A lookup that starts a computation gives it the number of those that were there. -/
theorem id_lookup_of_isNew (cache : AgedCache ε α) (now : Nat) (key : String) (window : Duration)
    (job : Job (Except ε α)) (h : (cache.lookup now key window job).isNew = true) :
    (cache.lookup now key window job).id = cache.computations.length := by
  rw [isNew_lookup, Option.isNone_iff_eq_none] at h
  rw [id_lookup, h]
  exact List.length_map _

/-- A poll does what the computation does. -/
theorem seen_poll (cache : AgedCache ε α) (now : Nat) (documents : Documents) {id : Nat}
    {computation : Computation ε α} (h : cache.computations[id]? = some computation) :
    (cache.poll now documents id).seen = (computation.job.poll now documents).2 := by
  simp only [poll, h]

/-- A poll has a result exactly when it leaves the computation over. -/
theorem result_poll (cache : AgedCache ε α) (now : Nat) (documents : Documents) {id : Nat}
    {result : Except ε α} (h : (cache.poll now documents id).result = some result) :
    ∃ computation, (cache.poll now documents id).cache.computations[id]? = some computation ∧
      computation.job = .done result := by
  rw [getElem?_computations_poll]
  unfold poll at h
  split at h
  · cases h
  · next computation hfound =>
    have hjob : (computation.job.poll now documents).1 = .done result := Job.eq_done_of_result? h
    exact ⟨_, congrArg _ hfound, by simpa using hjob⟩

end AgedCache

/-- Waiting for a computation does to the computations what polling it does. -/
theorem Caches.computations_await (caches : Caches ε α) (now : Nat) (documents : Documents)
    (name key other : String) (id : Nat) :
    ((caches.await now documents name key id).caches.named other).computations =
      if other = name then ((caches.named name).poll now documents id).cache.computations
      else (caches.named other).computations := by
  simp only [await]
  split
  · rw [named_put]
    split
    · unfold AgedCache.evict
      split <;> rfl
    · rfl
  · rw [named_put]
    split <;> rfl

/-- What is observed while a computation is waited for is what it does, and that it loses its entry
if it has failed. -/
theorem Caches.seen_await (caches : Caches ε α) (now : Nat) (documents : Documents)
    (name key : String) (id : Nat) :
    ∃ lost : List Observation, (caches.await now documents name key id).seen =
        ((caches.named name).poll now documents id).seen.map Job.Effect.observation ++ lost ∧
      ∀ observation ∈ lost, observation = .evicted name key id ∧
        ∃ fault, (caches.await now documents name key id).result = some (.error fault) := by
  simp only [await]
  split
  · next fault hfault =>
    refine ⟨_, rfl, ?_⟩
    intro observation hobservation
    split at hobservation
    · exact ⟨List.mem_singleton.mp hobservation, fault, rfl⟩
    · cases hobservation
  · exact ⟨[], (List.append_nil _).symm, fun _ h => absurd h List.not_mem_nil⟩

/-- What is observed while a computation is waited for holds the answers that it got. -/
theorem Caches.asked_await (caches : Caches ε α) (now : Nat) (documents : Documents)
    (name key : String) (id caller : Nat) :
    History.asked ((caches.await now documents name key id).seen.map fun observation =>
        ⟨now, documents, .observed caller observation⟩) =
      Job.answers documents ((caches.named name).poll now documents id).seen := by
  obtain ⟨lost, hseen, hlost⟩ := caches.seen_await now documents name key id
  have hnone : lost.filterMap (Record.asked? ∘ fun observation =>
      ⟨now, documents, .observed caller observation⟩) = [] := by
    refine List.filterMap_eq_nil_iff.mpr fun observation hobservation => ?_
    rw [(hlost observation hobservation).1]
    rfl
  simp only [hseen, History.asked, Job.answers, List.filterMap_map, List.filterMap_append, hnone,
    List.append_nil]
  congr 1
  funext effect
  cases effect <;> rfl

/-- A computation loses its entry only when it is over and has failed. -/
theorem Caches.evicted_await {caches : Caches ε α} {now : Nat} {documents : Documents}
    {name key cache lost : String} {id evicted : Nat}
    (h : .evicted cache lost evicted ∈ (caches.await now documents name key id).seen) :
    cache = name ∧ evicted = id ∧
      ∃ fault, (caches.await now documents name key id).result = some (.error fault) := by
  obtain ⟨last, hseen, hlast⟩ := caches.seen_await now documents name key id
  rw [hseen] at h
  rcases List.mem_append.mp h with heffect | hevicted
  · obtain ⟨effect, _, heq⟩ := List.mem_map.mp heffect
    cases effect <;> cases heq
  · obtain ⟨heq, hfailed⟩ := hlast _ hevicted
    cases heq
    exact ⟨rfl, rfl, hfailed⟩

/-- A caller that waits gets the result of the computation that it found. -/
theorem Caches.exists_done_of_await {caches : Caches ε α} {now : Nat} {documents : Documents}
    {name key : String} {id : Nat} {result : Except ε α}
    (ended : (caches.await now documents name key id).result = some result) :
    ∃ computation : Computation ε α, ((caches.await now documents name key id).caches.named
      name).computations[id]? = some computation ∧ computation.job = .done result := by
  rw [result_await] at ended
  rw [computations_await, if_pos rfl]
  exact AgedCache.result_poll _ now documents ended

/-- The computations of caches go on, with some answers. -/
def Caches.GoOn (caches : Caches ε α) (answers : Answers) (next : Caches ε α) : Prop :=
  ∀ (name : String) (id : Nat) (computation : Computation ε α),
    (caches.named name).computations[id]? = some computation →
      ∃ (last : Computation ε α) (given : Answers),
        (next.named name).computations[id]? = some last ∧
          computation.GoesOn given last ∧ given.Sublist answers

namespace Caches

/-- Computations that stay as they are go on. -/
theorem GoOn.of_eq {caches next : Caches ε α} (answers : Answers)
    (h : ∀ name, (next.named name).computations = (caches.named name).computations) :
    caches.GoOn answers next := by
  intro name id computation hfound
  exact ⟨computation, [], by rw [h, hfound], .refl computation, List.nil_sublist _⟩

/-- When a key is looked up all computations stay as they are. -/
theorem goOn_lookup (caches : Caches ε α) (now : Nat) (name key : String) (window : Duration)
    (job : Job (Except ε α)) :
    caches.GoOn []
      (Keyed.put name ((caches.named name).lookup now key window job).cache caches) := by
  intro other id computation hfound
  refine ⟨computation, [], ?_, .refl computation, .refl []⟩
  rw [named_put]
  split
  · next heq =>
    subst heq
    rw [AgedCache.computations_lookup]
    rw [List.getElem?_append_left (List.getElem?_eq_some_iff.mp hfound).1, hfound]
  · exact hfound

/-- While one computation is waited for it goes on, and the others stay as they are. -/
theorem goOn_await (caches : Caches ε α) (now : Nat) (documents : Documents)
    (name key : String) (id : Nat) :
    caches.GoOn (Job.answers documents ((caches.named name).poll now documents id).seen)
      (caches.await now documents name key id).caches := by
  intro other place computation hfound
  rw [computations_await]
  split
  · next heq =>
    subst heq
    rw [AgedCache.getElem?_computations_poll, hfound]
    by_cases hplace : id = place
    · subst hplace
      simp only [AgedCache.seen_poll _ _ _ hfound, Option.map_some, if_true]
      have hleads := computation.job.leads_poll now documents
      exact ⟨_, _, rfl, ⟨rfl, rfl, hleads⟩, .refl _⟩
    · simp only [Option.map_some, if_neg hplace]
      exact ⟨_, [], rfl, .refl computation, List.nil_sublist _⟩
  · exact ⟨computation, [], hfound, .refl computation, List.nil_sublist _⟩

/-- Waiting for a computation starts none. -/
theorem computation_await_eq_none {caches : Caches ε α} {other : String} {place : Nat}
    (h : (caches.named other).computations[place]? = none) (now : Nat) (documents : Documents)
    (name key : String) (id : Nat) :
    ((caches.await now documents name key id).caches.named other).computations[place]? = none := by
  rw [computations_await]
  split
  · next heq =>
    subst heq
    rw [AgedCache.getElem?_computations_poll, h]
    rfl
  · exact h

/-- A computation that was not there before a lookup was started by it. -/
theorem computation_of_lookup {caches : Caches ε α} {other : String} {id : Nat}
    {computation : Computation ε α} (hnone : (caches.named other).computations[id]? = none)
    {now : Nat} {name key : String} {window : Duration} {job : Job (Except ε α)}
    (hfound : (named (Keyed.put name ((caches.named name).lookup now key window job).cache caches)
      other).computations[id]? = some computation) :
    other = name ∧ computation = ⟨key, now, job⟩ ∧
      ((caches.named name).lookup now key window job).id = id ∧
      ((caches.named name).lookup now key window job).isNew = true := by
  rw [named_put] at hfound
  split at hfound
  · next heq =>
    subst heq
    rw [AgedCache.computations_lookup] at hfound
    split at hfound
    · next hnew =>
      have hlength := List.getElem?_eq_none_iff.mp hnone
      rw [List.getElem?_append_right hlength, List.getElem?_singleton,
        Option.ite_none_right_eq_some] at hfound
      obtain ⟨hlast, hcomputation⟩ := hfound
      have hid := AgedCache.id_lookup_of_isNew _ _ _ _ _ hnew
      exact ⟨rfl, (Option.some.inj hcomputation).symm, by omega, hnew⟩
    · rw [List.append_nil, hnone] at hfound
      cases hfound
  · rw [hnone] at hfound
    cases hfound

end Caches

namespace Chronicle

/-- A caller starts a computation with a lookup, and nothing else happens. -/
def Installs (chronicle : Chronicle ε α ρ) (added : History) (name : String) (id : Nat)
    (computation : Computation ε α) : Prop :=
  ∃ caller window next,
    chronicle.pipeline.callers[caller]? =
      some (.running (.lookup name computation.key window computation.job next)) ∧
    computation.since = chronicle.pipeline.clock ∧
    added = [chronicle.pipeline.stamp
      (.observed caller (.lookedUp ⟨name, computation.key, window, id, true⟩))]

/-- An event other than a poll leaves all computations as they are. -/
theorem computations_extend_quiet (chronicle : Chronicle ε α ρ) (event : Event ε α ρ)
    (quiet : ∀ id, event ≠ .poll id) (name : String) :
    ((chronicle.extend [event]).pipeline.caches.named name).computations =
      (chronicle.pipeline.caches.named name).computations := by
  cases event with
  | poll id => exact absurd rfl (quiet id)
  | invalidate cache key | clear cache =>
    simp only [extend, Pipeline.run, Pipeline.step, Pipeline.changeCache, Caches.named_put]
    split
    · next heq =>
      subst heq
      rfl
    · rfl
  | drop id =>
    obtain ⟨callers, hdrop⟩ := chronicle.pipeline.dropCaller_eq id
    simp only [extend, Pipeline.run, Pipeline.step, hdrop]
  | start | pass | publish | withdraw => rfl

/-- By a move all computations go on, with answers that are recorded, and one that was not there is
started by a caller. -/
theorem Move.progress {allowed : Event ε α ρ → Prop} {before after : Chronicle ε α ρ}
    (move : Move allowed before after) :
    ∃ added, after.history = before.history ++ added ∧
      before.pipeline.caches.GoOn added.asked after.pipeline.caches ∧
      ∀ (name : String) (id : Nat) (computation : Computation ε α),
        (before.pipeline.caches.named name).computations[id]? = none →
        (after.pipeline.caches.named name).computations[id]? = some computation →
        before.Installs added name id computation := by
  have still (last : Caches ε α) (added : History)
      (h : ∀ name, (last.named name).computations =
        (before.pipeline.caches.named name).computations) :
      before.pipeline.caches.GoOn added.asked last ∧
        ∀ (name : String) (id : Nat) (computation : Computation ε α),
          (before.pipeline.caches.named name).computations[id]? = none →
          (last.named name).computations[id]? = some computation →
          before.Installs added name id computation := by
    refine ⟨.of_eq _ h, ?_⟩
    intro name id computation hnone hfound
    rw [h, hnone] at hfound
    cases hfound
  cases move with
  | event event permitted quiet =>
    exact ⟨_, rfl, still _ _ (before.computations_extend_quiet event quiet)⟩
  | finish running => exact ⟨[], (List.append_nil _).symm, still _ _ fun _ => rfl⟩
  | @step caller _ polled running step =>
    cases step with
    | record metric next => exact ⟨_, rfl, still _ _ fun _ => rfl⟩
    | lookup name key window job next =>
      refine ⟨_, rfl, before.pipeline.caches.goOn_lookup _ name key window job, ?_⟩
      intro other id computation hnone hfound
      obtain ⟨rfl, rfl, hid, hnew⟩ := Caches.computation_of_lookup hnone hfound
      refine ⟨caller, window, next, running, rfl, ?_⟩
      simp only [List.map_singleton, hid, hnew]
    | resume name key waited next ended | wait name key waited next waiting =>
      refine ⟨_, rfl, ?_, ?_⟩
      · simp only [Pipeline.stamp, Caches.asked_await]
        exact before.pipeline.caches.goOn_await _ _ name key waited
      · intro other id computation hnone hfound
        simp only [advance, Caches.computation_await_eq_none hnone] at hfound
        cases hfound

/-- A computation has failed. -/
def Failed (chronicle : Chronicle ε α ρ) (name : String) (id : Nat) : Prop :=
  ∃ (computation : Computation ε α) (fault : ε),
    (chronicle.pipeline.caches.named name).computations[id]? = some computation ∧
      computation.job = .done (.error fault)

/-- A computation that loses its entry by a move has failed. -/
theorem Move.failed {allowed : Event ε α ρ → Prop} {before after : Chronicle ε α ρ}
    (move : Move allowed before after) :
    ∃ added, after.history = before.history ++ added ∧ ∀ record ∈ added,
      ∀ caller name key id, record.happening = .observed caller (.evicted name key id) →
        after.Failed name id := by
  cases move with
  | event event permitted quiet =>
    refine ⟨_, rfl, ?_⟩
    intro record hrecord caller name key id heq
    cases event with
    | poll other => exact absurd rfl (quiet other)
    | invalidate | clear =>
      simp only [Pipeline.history, Pipeline.records, List.append_nil, List.mem_singleton] at hrecord
      rw [hrecord] at heq
      cases heq
    | start | drop | pass | publish | withdraw => cases hrecord
  | finish running => exact ⟨[], (List.append_nil _).symm, fun _ h => absurd h List.not_mem_nil⟩
  | @step id caller polled running step =>
    refine ⟨_, rfl, ?_⟩
    intro record hrecord other name key evicted heq
    obtain ⟨observation, hseen, rfl⟩ := List.mem_map.mp hrecord
    simp only [Pipeline.stamp, Happening.observed.injEq] at heq
    obtain ⟨rfl, rfl⟩ := heq
    cases step with
    | record | lookup => simp at hseen
    | resume cache key waited next ended | wait cache key waited next running =>
      obtain ⟨rfl, rfl, fault, hfault⟩ := Caches.evicted_await hseen
      obtain ⟨computation, hfound, hdone⟩ := Caches.exists_done_of_await hfault
      exact ⟨computation, fault, hfound, hdone⟩

end Chronicle

end RelyingParty
