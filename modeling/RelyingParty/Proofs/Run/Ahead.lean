import RelyingParty.Proofs.Run.Alone

/-!
# A computation that is ahead

Caches that differ in one computation only, which has gone on in the one as far as it comes at the
moment, and has not in the other. Whoever is polled at this moment is told the same by both: who
waits for the computation takes it as far in the other, and nobody else sees any of it.
-/

namespace RelyingParty

variable {ε α ρ : Type}

namespace Job

/-- A job that has gone on as far as it comes at a moment goes on no further at this moment. -/
theorem poll_poll (now : Nat) (documents : Documents) (job : Job α) :
    (job.poll now documents).1.poll now documents = ((job.poll now documents).1, []) := by
  induction job with
  | done result => rfl
  | delay length next ih =>
    simp only [poll]
    split
    · exact ih
    · next hlength =>
      have hlater : ¬ now + length ≤ now := by omega
      simp only [poll, if_neg hlater]
  | sleeping wake next ih =>
    simp only [poll]
    split
    · exact ih
    · next hlater => simp only [poll, if_neg hlater]
  | request url next ih =>
    simp only [poll]
    split
    · exact ih _
    · next hdelay =>
      have hlater : ¬ now + (documents.document url).delay ≤ now := by omega
      simp only [poll, if_neg hlater]
  | record metric next ih => exact ih

/-- A job is over, or waits until a later moment. -/
def Rests (now : Nat) (job : Job α) : Prop :=
  (∃ result, job = .done result) ∨ ∃ wake, job.wake? = some wake ∧ now < wake

/-- A job that is over or waits until a later moment does not go on. -/
theorem Rests.poll {now : Nat} {job : Job α} (h : job.Rests now) (documents : Documents) :
    (job.poll now documents).1 = job := by
  rcases h with ⟨result, rfl⟩ | ⟨wake, hwake, hlater⟩
  · rfl
  · cases job with
    | sleeping moment next =>
      obtain rfl := Option.some.inj hwake
      simp only [Job.poll, if_neg (Nat.not_le.mpr hlater)]
    | done | delay | request | record => cases hwake

/-- How a job may have gone on at a moment: not at all, or as far as it comes. -/
inductive Pace (now : Nat) (documents : Documents) : (Job α → Job α) → Prop where
  /-- It stays as it is. -/
  | stays : Pace now documents fun job => job
  /-- It goes on as far as it comes. -/
  | goes : Pace now documents fun job => (job.poll now documents).1

/-- However a job has gone on at a moment, at this moment it comes to the same. -/
theorem Pace.poll {now : Nat} {documents : Documents} {on : Job α → Job α}
    (h : Pace now documents on) (job : Job α) :
    ((on job).poll now documents).1 = (job.poll now documents).1 := by
  cases h with
  | stays => rfl
  | goes => rw [poll_poll]

theorem Pace.of_rests {now : Nat} {documents : Documents} {on : Job α → Job α}
    (h : Pace now documents on) {job : Job α} (rests : job.Rests now) : on job = job := by
  cases h with
  | stays => rfl
  | goes => exact rests.poll documents

end Job

namespace AgedCache

/-- The cache after one of its computations went on. -/
def proceed (cache : AgedCache ε α) (id : Nat) (on : Job (Except ε α) → Job (Except ε α)) :
    AgedCache ε α :=
  { cache with
    computations := cache.computations.modify id fun computation =>
      { computation with job := on computation.job } }

variable (cache : AgedCache ε α) {on : Job (Except ε α) → Job (Except ε α)} {id other : Nat}

theorem getElem?_proceed (id other : Nat) (on : Job (Except ε α) → Job (Except ε α)) :
    (cache.proceed id on).computations[other]? =
      (cache.computations[other]?).map fun computation =>
        if id = other then { computation with job := on computation.job } else computation := by
  rw [proceed, List.getElem?_modify]
  by_cases h : id = other <;> simp [h]

/-- A cache is the one whose computations are the same and whose entries are. -/
theorem ext_getElem? {cache next : AgedCache ε α} (entries : cache.entries = next.entries)
    (computations : ∀ id : Nat, cache.computations[id]? = next.computations[id]?) :
    cache = next := by
  obtain ⟨_, _⟩ := cache
  obtain ⟨_, _⟩ := next
  obtain rfl : _ = _ := entries
  obtain rfl := List.ext_getElem? computations
  rfl

/-- A computation that stays as it is leaves the cache as it is. -/
theorem proceed_self (id : Nat) : cache.proceed id (fun job => job) = cache := by
  refine ext_getElem? rfl fun other => ?_
  rw [getElem?_proceed]
  simp

theorem proceed_proceed (id : Nat) (first last : Job (Except ε α) → Job (Except ε α)) :
    (cache.proceed id first).proceed id last = cache.proceed id fun job => last (first job) := by
  refine ext_getElem? rfl fun other => ?_
  rw [getElem?_proceed, getElem?_proceed, getElem?_proceed, Option.map_map]
  congr 1
  funext computation
  by_cases h : id = other <;> simp [h]

/-- Two computations go on in any order. -/
theorem proceed_comm (h : other ≠ id) (first last : Job (Except ε α) → Job (Except ε α)) :
    (cache.proceed id first).proceed other last = (cache.proceed other last).proceed id first := by
  refine ext_getElem? rfl fun place => ?_
  rw [getElem?_proceed, getElem?_proceed, getElem?_proceed, getElem?_proceed, Option.map_map,
    Option.map_map]
  congr 1
  funext computation
  by_cases hplace : id = place
  · subst hplace
    simp [h]
  · simp [hplace]

theorem stamps_proceed : (cache.proceed id on).stamps = cache.stamps := by
  apply List.ext_getElem?
  intro other
  simp only [stamps, List.getElem?_map, getElem?_proceed, Option.map_map]
  congr 1
  funext computation
  simp only [Function.comp_apply]
  split <;> rfl

/-- What a computation comes to at a moment. -/
def due (now : Nat) (documents : Documents) (id : Nat) : Option (Job (Except ε α)) :=
  (cache.computations[id]?).map fun computation => (computation.job.poll now documents).1

/-- A poll takes a computation as far as it comes. -/
theorem cache_poll (now : Nat) (documents : Documents) (id : Nat) :
    (cache.poll now documents id).cache =
      cache.proceed id fun job => (job.poll now documents).1 := by
  refine ext_getElem? (entries_poll ..) fun other => ?_
  rw [getElem?_computations_poll, getElem?_proceed]

theorem result_poll_eq (now : Nat) (documents : Documents) (id : Nat) :
    (cache.poll now documents id).result = (cache.due now documents id).bind Job.result? := by
  unfold poll due
  cases cache.computations[id]? <;> rfl

variable {now : Nat} {documents : Documents}

/-- A computation that is ahead comes to the same. -/
theorem due_proceed (pace : Job.Pace now documents on) :
    (cache.proceed id on).due now documents other = cache.due now documents other := by
  rw [due, due, getElem?_proceed, Option.map_map]
  congr 1
  funext computation
  simp only [Function.comp_apply]
  split
  · exact pace.poll _
  · rfl

/-- A lookup finds the same where a computation is ahead. -/
theorem lookup_proceed (there : id < cache.computations.length) (key : String) (window : Duration)
    (job : Job (Except ε α)) :
    (cache.proceed id on).lookup now key window job =
      ⟨(cache.lookup now key window job).cache.proceed id on,
        (cache.lookup now key window job).id, (cache.lookup now key window job).isNew⟩ := by
  have hfresh : (cache.proceed id on).fresh? now key window = cache.fresh? now key window := by
    rw [fresh?_eq, fresh?_eq, stamps_proceed]
    rfl
  have hlength : (cache.proceed id on).computations.length = cache.computations.length :=
    List.length_modify ..
  unfold lookup
  rw [hfresh]
  split
  · rfl
  · rw [hlength]
    congr 1
    refine ext_getElem? ?_ fun other => ?_
    · simp only [install, proceed, List.length_modify]
    · rw [getElem?_proceed]
      simp only [install]
      by_cases hother : other < cache.computations.length
      · rw [List.getElem?_append_left (hlength.symm ▸ hother), List.getElem?_append_left hother,
          getElem?_proceed]
      · -- what is installed has a number of its own
        have hid : id ≠ other := by omega
        have hlast := Nat.not_lt.mp hother
        rw [List.getElem?_append_right (hlength.symm ▸ hlast), List.getElem?_append_right hlast,
          hlength]
        simp [hid]

/-- The cache after somebody has waited for a computation with a result, if it has one. -/
def told (cache : AgedCache ε α) (key : String) (id : Nat) :
    Option (Except ε α) → AgedCache ε α
  | some (.error _) => cache.evict key id
  | _ => cache

/-- Only a failure changes anything. -/
theorem told_of_ne_error {result : Option (Except ε α)}
    (h : ∀ fault, result ≠ some (.error fault)) (key : String) (id : Nat) :
    cache.told key id result = cache := by
  rcases result with _ | fault | value
  · rfl
  · exact absurd rfl (h fault)
  · rfl

theorem told_proceed (key : String) (place : Nat) (result : Option (Except ε α)) :
    (cache.proceed id on).told key place result = (cache.told key place result).proceed id on := by
  rcases result with _ | fault | value
  · rfl
  · have hentries : (cache.proceed id on).entries = cache.entries := rfl
    simp only [told, evict, hentries]
    split <;> rfl
  · rfl

theorem computations_told (key : String) (place : Nat) (result : Option (Except ε α)) :
    (cache.told key place result).computations = cache.computations := by
  rcases result with _ | fault | value
  · rfl
  · simp only [told, evict]
    split <;> rfl
  · rfl

end AgedCache

/-- Whether something that is observed concerns the entries of a cache. -/
def Observation.isOfCache : Observation → Bool
  | lookedUp _ => true
  | evicted .. => true
  | _ => false

theorem filter_isOfCache_effects (effects : List Job.Effect) :
    (effects.map Job.Effect.observation).filter Observation.isOfCache = [] := by
  refine List.filter_eq_nil_iff.mpr fun observation hobservation => ?_
  obtain ⟨effect, _, rfl⟩ := List.mem_map.mp hobservation
  cases effect <;> exact Bool.false_ne_true

namespace Caches

variable {name : String} {id now : Nat} {documents : Documents}
  {on : Job (Except ε α) → Job (Except ε α)} {caches next : Caches ε α}

/-- Waiting for a computation takes it as far as it comes and tells the result. -/
theorem named_await (caches : Caches ε α) (now : Nat) (documents : Documents)
    (name key other : String) (id : Nat) :
    (caches.await now documents name key id).caches.named other =
      if other = name then
        ((caches.named other).proceed id fun job => (job.poll now documents).1).told key id
          ((caches.named other).poll now documents id).result
      else caches.named other := by
  rw [← AgedCache.cache_poll]
  by_cases h : other = name
  · subst h
    rw [if_pos rfl]
    simp only [await]
    split
    · next fault hfault => rw [named_put, if_pos rfl, hfault, AgedCache.told]
    · next hresult => rw [named_put, if_pos rfl, AgedCache.told_of_ne_error _ hresult]
  · rw [if_neg h]
    simp only [await]
    split <;> rw [named_put, if_neg h]

/-- Only a failure loses anything. -/
theorem lost_of_ne_error {result : Option (Except ε α)}
    (h : ∀ fault, result ≠ some (.error fault)) (caches : Caches ε α) (name key : String)
    (id : Nat) :
    (match result with
      | some result => caches.lost name key id result
      | none => []) = [] := by
  rcases result with _ | fault | value
  · rfl
  · exact absurd rfl (h fault)
  · rfl

/-- Of what is observed while a computation is waited for only the loss of an entry concerns a
cache. -/
theorem filter_seen_await (caches : Caches ε α) (now : Nat) (documents : Documents)
    (name key : String) (id : Nat) :
    (caches.await now documents name key id).seen.filter Observation.isOfCache =
      match ((caches.named name).poll now documents id).result with
      | some result => caches.lost name key id result
      | none => [] := by
  simp only [await]
  split
  · next fault hfault =>
    rw [hfault, List.filter_append, filter_isOfCache_effects, AgedCache.entries_poll,
      List.nil_append]
    simp only [lost]
    split <;> rfl
  · next hresult => rw [filter_isOfCache_effects, lost_of_ne_error hresult]

/-- Caches that are the same but for one computation, which has gone on in the second. -/
structure Ahead (name : String) (id : Nat) (on : Job (Except ε α) → Job (Except ε α))
    (caches next : Caches ε α) : Prop where
  /-- The computation is there. -/
  there : id < (caches.named name).computations.length
  /-- Its cache is the same but for the computation, and all others are the same. -/
  named : ∀ other, next.named other =
    if other = name then (caches.named other).proceed id on else caches.named other

/-- The entries of all caches are the same. -/
theorem Ahead.entries (h : Ahead name id on caches next) (other : String) :
    (next.named other).entries = (caches.named other).entries := by
  rw [h.named]
  split <;> rfl

/-- Caches are the same as themselves. -/
theorem Ahead.refl (there : id < (caches.named name).computations.length) :
    Ahead name id (fun job => job) caches caches := by
  refine ⟨there, fun other => ?_⟩
  rw [AgedCache.proceed_self, ite_self]

/-- A key is looked up with the same outcome. -/
theorem Ahead.lookup (h : Ahead name id on caches next) (now : Nat) (cache key : String)
    (window : Duration) (job : Job (Except ε α)) :
    ((next.named cache).lookup now key window job).id =
        ((caches.named cache).lookup now key window job).id ∧
      ((next.named cache).lookup now key window job).isNew =
        ((caches.named cache).lookup now key window job).isNew ∧
      Ahead name id on
        (Keyed.put cache ((caches.named cache).lookup now key window job).cache caches)
        (Keyed.put cache ((next.named cache).lookup now key window job).cache next) := by
  have hcache := h.named cache
  by_cases hname : cache = name
  · subst hname
    rw [if_pos rfl] at hcache
    rw [hcache, AgedCache.lookup_proceed _ h.there]
    refine ⟨rfl, rfl, ?_, fun other => ?_⟩
    · rw [named_put, if_pos rfl, AgedCache.computations_lookup, List.length_append]
      exact Nat.lt_of_lt_of_le h.there (Nat.le_add_right _ _)
    · rw [named_put, named_put]
      by_cases hother : other = cache
      · simp only [if_pos hother]
      · simpa only [if_neg hother] using h.named other
  · rw [if_neg hname] at hcache
    rw [hcache]
    refine ⟨rfl, rfl, ?_, fun other => ?_⟩
    · rw [named_put, if_neg (Ne.symm hname)]
      exact h.there
    · rw [named_put, named_put]
      by_cases hother : other = cache
      · subst hother
        simp only [if_pos, if_neg hname]
      · simpa only [if_neg hother] using h.named other

/-- Whoever waits is told the same, and takes the computation as far if it is the one. -/
theorem Ahead.await (h : Ahead name id on caches next) (pace : Job.Pace now documents on)
    (cache key : String) (place : Nat) :
    (next.await now documents cache key place).result =
        (caches.await now documents cache key place).result ∧
      (next.await now documents cache key place).seen.filter Observation.isOfCache =
        (caches.await now documents cache key place).seen.filter Observation.isOfCache ∧
      ∃ after, Job.Pace now documents after ∧
        Ahead name id after (caches.await now documents cache key place).caches
          (next.await now documents cache key place).caches := by
  have hresult : ((next.named cache).poll now documents place).result =
      ((caches.named cache).poll now documents place).result := by
    rw [AgedCache.result_poll_eq, AgedCache.result_poll_eq, h.named]
    split
    · rw [AgedCache.due_proceed _ pace]
    · rfl
  have hthere : id < ((caches.await now documents cache key place).caches.named
      name).computations.length := by
    rw [named_await]
    split
    · rw [AgedCache.computations_told, AgedCache.proceed, List.length_modify]
      exact h.there
    · exact h.there
  refine ⟨by rw [result_await, result_await, hresult], ?_, ?_⟩
  · rw [filter_seen_await, filter_seen_await, hresult]
    split
    · simp only [lost, h.entries]
    · rfl
  by_cases hsame : cache = name ∧ place = id
  · obtain ⟨rfl, rfl⟩ := hsame
    refine ⟨_, .stays, hthere, fun other => ?_⟩
    rw [named_await, named_await, AgedCache.proceed_self, ite_self]
    by_cases hother : other = cache
    · subst hother
      rw [if_pos rfl, if_pos rfl, hresult, h.named, if_pos rfl, AgedCache.proceed_proceed]
      simp only [pace.poll]
    · rw [if_neg hother, if_neg hother, h.named, if_neg hother]
  · refine ⟨on, pace, hthere, fun other => ?_⟩
    rw [named_await, named_await]
    by_cases hother : other = cache
    · subst hother
      rw [if_pos rfl, if_pos rfl, hresult, h.named]
      by_cases hname : other = name
      · have hplace : place ≠ id := fun heq => hsame ⟨hname, heq⟩
        rw [if_pos hname, if_pos hname, AgedCache.proceed_comm _ hplace, AgedCache.told_proceed]
      · rw [if_neg hname, if_neg hname]
    · rw [if_neg hother, if_neg hother, h.named]

/-- What a computation comes to at a moment. -/
def due (caches : Caches ε α) (now : Nat) (documents : Documents) (name : String) (id : Nat) :
    Option (Job (Except ε α)) :=
  (caches.named name).due now documents id

/-- While a computation is waited for, none comes to anything else at this moment. -/
theorem due_await (caches : Caches ε α) (now : Nat) (documents : Documents)
    (cache key : String) (place : Nat) (name : String) (id : Nat) :
    (caches.await now documents cache key place).caches.due now documents name id =
      caches.due now documents name id := by
  rw [due, named_await]
  split
  · rw [AgedCache.due, AgedCache.computations_told, ← AgedCache.due, AgedCache.due_proceed _ .goes]
    rfl
  · rfl

/-- A lookup changes nothing about what a computation comes to that is there already. -/
theorem due_lookup {left : Job (Except ε α)} (h : caches.due now documents name id = some left)
    (moment : Nat) (cache key : String) (window : Duration) (job : Job (Except ε α)) :
    due (Keyed.put cache ((caches.named cache).lookup moment key window job).cache caches) now
      documents name id = some left := by
  rw [due, named_put]
  split
  · next hname =>
    subst hname
    obtain ⟨computation, hfound, hleft⟩ := Option.map_eq_some_iff.mp h
    rw [AgedCache.due, AgedCache.computations_lookup,
      List.getElem?_append_left (List.getElem?_eq_some_iff.mp hfound).1, hfound]
    exact congrArg some hleft
  · exact h

/-- A computation that is polled in one of two caches alone, and does not fail, is ahead in it. -/
theorem Ahead.await_self (h : Ahead name id on caches next) (pace : Job.Pace now documents on)
    (key : String)
    (unfailed : ∀ fault, caches.due now documents name id ≠ some (.done (.error fault))) :
    (next.await now documents name key id).seen.filter Observation.isOfCache = [] ∧
      Ahead name id (fun job => (job.poll now documents).1) caches
        (next.await now documents name key id).caches := by
  have hdue : (next.named name).due now documents id =
      (caches.named name).due now documents id := by
    rw [h.named, if_pos rfl, AgedCache.due_proceed _ pace]
  have hresult (fault : ε) :
      ((next.named name).poll now documents id).result ≠ some (.error fault) := by
    rw [AgedCache.result_poll_eq, hdue]
    intro hfault
    obtain ⟨job, hjob, hdone⟩ := Option.bind_eq_some_iff.mp hfault
    rw [Job.eq_done_of_result? hdone] at hjob
    exact unfailed fault hjob
  constructor
  · rw [filter_seen_await, lost_of_ne_error hresult]
  · refine ⟨h.there, fun other => ?_⟩
    rw [named_await]
    by_cases hother : other = name
    · subst hother
      rw [if_pos rfl, if_pos rfl, AgedCache.told_of_ne_error _ hresult, h.named, if_pos rfl,
        AgedCache.proceed_proceed]
      simp only [pace.poll]
    · rw [if_neg hother, if_neg hother, h.named, if_neg hother]

end Caches

namespace Caller

variable {name : String} {id now : Nat} {documents : Documents}
  {on : Job (Except ε α) → Job (Except ε α)} {caches next : Caches ε α}

/-- What polls come to that are alike: the caller has come equally far with the same lookups and the
same entries lost, and the caches are the same but for a computation that is ahead. -/
structure Polled.Alike (now : Nat) (documents : Documents) (name : String) (id : Nat)
    (polled next : Polled ε α ρ) : Prop where
  /-- The caller has come equally far. -/
  caller : next.caller = polled.caller
  /-- The same was looked up, and the same entries were lost. -/
  seen : next.seen.filter Observation.isOfCache = polled.seen.filter Observation.isOfCache
  /-- At most the computation is ahead. -/
  caches : ∃ on, Job.Pace now documents on ∧ Caches.Ahead name id on polled.caches next.caches

theorem Polled.Alike.after {polled next : Polled ε α ρ}
    (h : polled.Alike now documents name id next) {first last : List Observation}
    (same : last.filter Observation.isOfCache = first.filter Observation.isOfCache) :
    (polled.after first).Alike now documents name id (next.after last) := by
  refine ⟨h.caller, ?_, h.caches⟩
  simp only [Polled.after, List.filter_append, same, h.seen]

/-- A caller that is polled comes equally far where a computation is ahead. -/
theorem poll_ahead (caller : Caller ε α ρ) (pace : Job.Pace now documents on)
    (ahead : Caches.Ahead name id on caches next) :
    (caller.poll now documents caches).Alike now documents name id
      (caller.poll now documents next) := by
  -- a lookup is followed by the wait for what it has found, so waiting is settled apart
  have hawait (cache key : String) (place : Nat) (rest : Nat → Except ε α → Caller ε α ρ)
      (ih : ∀ place result {on : Job (Except ε α) → Job (Except ε α)} {caches next : Caches ε α},
        Job.Pace now documents on → Caches.Ahead name id on caches next →
        ((rest place result).poll now documents caches).Alike now documents name id
          ((rest place result).poll now documents next))
      {on : Job (Except ε α) → Job (Except ε α)} {caches next : Caches ε α}
      (pace : Job.Pace now documents on) (ahead : Caches.Ahead name id on caches next) :
      ((awaiting cache key place rest).poll now documents caches).Alike now documents name id
        ((awaiting cache key place rest).poll now documents next) := by
    obtain ⟨hresult, hseen, after, hpace, hahead⟩ := ahead.await pace cache key place
    simp only [poll, hresult]
    split
    · next result _ => exact (ih place result hpace hahead).after hseen
    · exact ⟨rfl, hseen, after, hpace, hahead⟩
  induction caller generalizing on caches next with
  | done result => exact ⟨rfl, rfl, on, pace, ahead⟩
  | record metric rest ih => exact (ih pace ahead).after rfl
  | lookup cache key window job rest ih =>
    obtain ⟨hid, hnew, hlookup⟩ := ahead.lookup now cache key window job
    rw [poll_lookup, poll_lookup, hid, hnew]
    exact (hawait cache key _ rest (fun place result _ _ _ => ih place result) pace hlookup).after
      rfl
  | awaiting cache key place rest ih =>
    exact hawait cache key place rest (fun place result _ _ _ => ih place result) pace ahead

/-- A step of a caller changes nothing about what a computation comes to at this moment. -/
theorem due_step {caller : Caller ε α ρ} {polled : Polled ε α ρ} {left : Job (Except ε α)}
    (step : Step now documents caches caller polled)
    (h : caches.due now documents name id = some left) :
    polled.caches.due now documents name id = some left := by
  cases step with
  | record metric next => exact h
  | lookup cache key window job next => exact Caches.due_lookup h now cache key window job
  | resume cache key place next ended | wait cache key place next running =>
    rw [Caches.due_await]
    exact h

/-- While a caller is polled no computation that is there comes to anything else at this moment. -/
theorem due_poll (caller : Caller ε α ρ) {left : Job (Except ε α)}
    (h : caches.due now documents name id = some left) :
    (caller.poll now documents caches).caches.due now documents name id = some left := by
  have hsteps := caller.steps_poll now documents caches
  generalize caller.poll now documents caches = polled at hsteps ⊢
  induction hsteps with
  | refl => exact h
  | head step rest ih => exact ih (due_step step h)

end Caller

end RelyingParty
