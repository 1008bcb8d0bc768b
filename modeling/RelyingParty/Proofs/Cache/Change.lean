import RelyingParty.Proofs.Run.Move
import RelyingParty.Proofs.Job.Course
import Mathlib.Data.List.Basic

/-!
# Changes of caches

What a move of a run does to the caches. At most one cache changes: a key is looked up, a
computation goes on, a failed one loses its entry, or entries are taken away from outside. The keys
and the moments of the computations never change, and each computation only goes on.
-/

namespace RelyingParty

variable {ε α ρ : Type}

namespace AgedCache

/-- The keys of the computations and the moments at which they were started, in order. -/
def stamps (cache : AgedCache ε α) : List (String × Nat) :=
  cache.computations.map fun computation => (computation.key, computation.since)

theorem fresh?_eq (cache : AgedCache ε α) (now : Nat) (key : String) (window : Duration) :
    cache.fresh? now key window = (cache.entries.find? key).bind fun id =>
      cache.stamps[id]?.bind fun stamp =>
        if now - stamp.2 ≤ window.total then some id else none := by
  simp only [fresh?, stamps, List.getElem?_map, Option.bind_map, Option.bind_eq_bind,
    Function.comp_def]

theorem getElem?_update (cache : AgedCache ε α) (id other : Nat) (job : Job (Except ε α)) :
    (cache.update id job).computations[other]? =
      if id = other then (cache.computations[other]?).map fun computation =>
        { computation with job }
      else cache.computations[other]? := by
  simp only [update, List.getElem?_modify]
  split
  · rfl
  · simp

/-- A poll takes one computation further and leaves the others alone. -/
theorem getElem?_computations_poll (cache : AgedCache ε α) (now : Nat) (documents : Documents)
    (id other : Nat) :
    (cache.poll now documents id).cache.computations[other]? =
      (cache.computations[other]?).map fun computation =>
        if id = other then { computation with job := (computation.job.poll now documents).1 }
        else computation := by
  unfold poll
  split
  · next hnone =>
    by_cases h : id = other
    · subst h
      rw [hnone]
      rfl
    · simp [h]
  · next computation hfound =>
    rw [getElem?_update]
    by_cases h : id = other
    · subst h
      simp [hfound]
    · simp [h]

@[simp] theorem entries_poll (cache : AgedCache ε α) (now : Nat) (documents : Documents)
    (id : Nat) : (cache.poll now documents id).cache.entries = cache.entries := by
  unfold poll
  split <;> rfl

@[simp] theorem stamps_poll (cache : AgedCache ε α) (now : Nat) (documents : Documents)
    (id : Nat) : (cache.poll now documents id).cache.stamps = cache.stamps := by
  apply List.ext_getElem?
  intro other
  simp only [stamps, List.getElem?_map, getElem?_computations_poll, Option.map_map]
  congr 1
  funext computation
  simp only [Function.comp_apply]
  split <;> rfl

theorem computations_lookup (cache : AgedCache ε α) (now : Nat) (key : String) (window : Duration)
    (job : Job (Except ε α)) :
    (cache.lookup now key window job).cache.computations = cache.computations ++
      if (cache.lookup now key window job).isNew then [⟨key, now, job⟩] else [] := by
  unfold lookup
  split <;> simp [install]

theorem stamps_lookup (cache : AgedCache ε α) (now : Nat) (key : String) (window : Duration)
    (job : Job (Except ε α)) :
    (cache.lookup now key window job).cache.stamps =
      cache.stamps ++ if (cache.lookup now key window job).isNew then [(key, now)] else [] := by
  rw [stamps, computations_lookup, List.map_append, ← stamps]
  split <;> rfl

theorem find?_entries_lookup (cache : AgedCache ε α) (now : Nat) (key other : String)
    (window : Duration) (job : Job (Except ε α)) :
    (cache.lookup now key window job).cache.entries.find? other =
      if other = key ∧ (cache.lookup now key window job).isNew = true then
        some (cache.lookup now key window job).id
      else cache.entries.find? other := by
  unfold lookup
  split
  · simp
  · simp [install, Keyed.find?_put]

theorem id_lookup (cache : AgedCache ε α) (now : Nat) (key : String) (window : Duration)
    (job : Job (Except ε α)) :
    (cache.lookup now key window job).id =
      (cache.fresh? now key window).getD cache.stamps.length := by
  unfold lookup
  split <;> simp_all [stamps]

theorem isNew_lookup (cache : AgedCache ε α) (now : Nat) (key : String) (window : Duration)
    (job : Job (Except ε α)) :
    (cache.lookup now key window job).isNew = (cache.fresh? now key window).isNone := by
  unfold lookup
  split <;> simp_all

/-- How a cache changes by one move of a run, and what is observed. -/
inductive Change (now : Nat) (documents : Documents) (name : String) (cache : AgedCache ε α) :
    List Happening → AgedCache ε α → Prop where
  /-- A key is looked up. -/
  | lookup (caller : Nat) (key : String) (window : Duration) (job : Job (Except ε α)) :
    Change now documents name cache
      [.observed caller (.lookedUp ⟨name, key, window, (cache.lookup now key window job).id,
        (cache.lookup now key window job).isNew⟩)]
      (cache.lookup now key window job).cache
  /-- A computation goes on. -/
  | poll (caller : Nat) (id : Nat) :
    Change now documents name cache
      ((cache.poll now documents id).seen.map fun effect => .observed caller effect.observation)
      (cache.poll now documents id).cache
  /-- A computation fails and loses its entry. -/
  | evict (caller : Nat) (key : String) (id : Nat) {fault : ε}
    (failed : (cache.poll now documents id).result = some (.error fault))
    (held : cache.entries.find? key = some id) :
    Change now documents name cache
      (((cache.poll now documents id).seen.map fun effect =>
        .observed caller effect.observation) ++ [.observed caller (.evicted name key id)])
      ((cache.poll now documents id).cache.invalidate key)
  /-- The entry of a key is taken away. -/
  | invalidate (key : String) :
    Change now documents name cache [.invalidated name key] (cache.invalidate key)
  /-- All entries are taken away. -/
  | clear : Change now documents name cache [.cleared name] cache.clear

end AgedCache

namespace Caches

theorem named_put (caches : Caches ε α) (name other : String) (cache : AgedCache ε α) :
    named (Keyed.put name cache caches) other =
      if other = name then cache else caches.named other := by
  simp only [named, Keyed.find?_put]
  split <;> rfl

/-- Waiting for a computation gives the result that it has when it is polled. -/
theorem result_await (caches : Caches ε α) (now : Nat) (documents : Documents)
    (name key : String) (id : Nat) :
    (caches.await now documents name key id).result =
      ((caches.named name).poll now documents id).result := by
  simp only [await]
  split <;> simp_all

/-- How caches change by one move of a run, and what is observed. -/
inductive Change (now : Nat) (documents : Documents) (caches : Caches ε α) :
    List Happening → Caches ε α → Prop where
  /-- Nothing happens. -/
  | none : Change now documents caches [] caches
  /-- Something is counted. -/
  | count (caller : Nat) (metric : Metric) :
    Change now documents caches [.observed caller (.recorded metric)] caches
  /-- One cache changes. -/
  | change {name : String} {happenings : List Happening} {cache : AgedCache ε α}
    (change : AgedCache.Change now documents name (caches.named name) happenings cache) :
    Change now documents caches happenings (Keyed.put name cache caches)

/-- Waiting for a computation changes its cache alone. -/
theorem change_await (caches : Caches ε α) (now : Nat) (documents : Documents)
    (name key : String) (id caller : Nat) :
    Change now documents caches
      ((caches.await now documents name key id).seen.map (.observed caller))
      (caches.await now documents name key id).caches := by
  have hpoll : AgedCache.Change now documents name (caches.named name) _ _ := .poll caller id
  simp only [await]
  split
  · next fault failed =>
    by_cases held : (caches.named name).entries.find? key = some id
    · have hevict : AgedCache.Change now documents name (caches.named name) _ _ :=
        .evict caller key id failed held
      apply Change.change
      simpa [AgedCache.evict, held, AgedCache.invalidate, Function.comp_def] using hevict
    · apply Change.change
      simpa [AgedCache.evict, held, Function.comp_def] using hpoll
  · apply Change.change
    simpa [Function.comp_def] using hpoll

end Caches

theorem Pipeline.dropCaller_eq (pipeline : Pipeline ε α ρ) (id : Nat) :
    ∃ callers, pipeline.dropCaller id = { pipeline with callers } := by
  unfold dropCaller
  split
  · exact ⟨_, rfl⟩
  · exact ⟨pipeline.callers, rfl⟩

/-- Every move changes the caches in one of these ways, and all that it adds to the history happens
at the moment of the move. -/
theorem Chronicle.Move.change {allowed : Event ε α ρ → Prop} {before after : Chronicle ε α ρ}
    (move : Chronicle.Move allowed before after) :
    ∃ happenings, Caches.Change before.pipeline.clock before.pipeline.documents
        before.pipeline.caches happenings after.pipeline.caches ∧
      after.history = before.history ++ happenings.map before.pipeline.stamp ∧
      before.pipeline.clock ≤ after.pipeline.clock := by
  cases move with
  | event event permitted quiet =>
    cases event with
    | poll id => exact absurd rfl (quiet id)
    | invalidate cache key => exact ⟨_, .change (.invalidate key), rfl, Nat.le_refl _⟩
    | clear cache => exact ⟨_, .change .clear, rfl, Nat.le_refl _⟩
    | pass length => exact ⟨[], .none, rfl, Nat.le_add_right _ _⟩
    | drop id =>
      obtain ⟨callers, hdrop⟩ := before.pipeline.dropCaller_eq id
      simp only [extend, Pipeline.run, Pipeline.step, Pipeline.history, Pipeline.records, hdrop]
      exact ⟨[], .none, rfl, Nat.le_refl _⟩
    | start | publish | withdraw => exact ⟨[], .none, rfl, Nat.le_refl _⟩
  | @step id caller polled running step =>
    cases step with
    | record metric next => exact ⟨_, .count id metric, rfl, Nat.le_refl _⟩
    | lookup name key window job next =>
      exact ⟨_, .change (.lookup id key window job), rfl, Nat.le_refl _⟩
    | resume name key waited next ended =>
      refine ⟨_, before.pipeline.caches.change_await _ _ name key waited id, ?_, Nat.le_refl _⟩
      simp only [advance, List.map_map, Function.comp_def]
    | wait name key waited next waiting =>
      refine ⟨_, before.pipeline.caches.change_await _ _ name key waited id, ?_, Nat.le_refl _⟩
      simp only [advance, List.map_map, Function.comp_def]
  | finish running => exact ⟨[], .none, (List.append_nil _).symm, Nat.le_refl _⟩

end RelyingParty
