import RelyingParty.Proofs.Run.Alone

/-!
# What is counted in a run

Callers and jobs count things on their way to a result, all at once when they come to it. What has
been counted after a run is then told by the state alone, whatever the order of the events was: it
is what the results tell, each once, of the callers that are over and of the computations that are
over. Who was dropped or still waits has counted nothing, and who looks a computation up that is
over counts nothing for it again.
-/

namespace RelyingParty

variable {ε α ρ : Type}

/-- What was counted among what happened. -/
def Observation.metrics (observations : List Observation) : List Metric :=
  observations.filterMap fun
    | .recorded metric => some metric
    | _ => none

theorem Observation.metrics_append (first last : List Observation) :
    metrics (first ++ last) = metrics first ++ metrics last :=
  List.filterMap_append

/-- What was counted among what a job did. -/
def Job.Effect.metrics (effects : List Effect) : List Metric :=
  Observation.metrics (effects.map observation)

/-- What a result tells that may be there already. -/
def tale {β : Type} (told : β → List Metric) (result : Option β) : List Metric :=
  (result.map told).getD []

namespace Job

/-- When a job comes to a result it has counted what the result tells, and nothing before. The job
here has counted something already, since it last waited. -/
def Tells {β : Type} (told : β → List Metric) : List Metric → Job β → Prop
  | counted, done result => counted = told result
  | counted, delay _ next => counted = [] ∧ next.Tells told []
  | counted, sleeping _ next => counted = [] ∧ next.Tells told []
  | counted, request _ next => counted = [] ∧ ∀ answer, (next answer).Tells told []
  | counted, record metric next => next.Tells told (counted ++ [metric])

variable {β : Type} {told : β → List Metric}

/-- A job that has counted nothing has no result that tells something. -/
theorem tale_of_tells {job : Job β} (h : job.Tells told []) : tale told job.result? = [] := by
  cases job with
  | done result => exact Eq.symm h
  | delay | sleeping | request | record => rfl

/-- A poll leaves a job with what it has counted: all that its result tells, or nothing. -/
theorem tells_poll {job : Job β} {counted : List Metric} (h : job.Tells told counted) (now : Nat)
    (documents : Documents) :
    counted ++ Effect.metrics (job.poll now documents).2 =
        tale told (job.poll now documents).1.result? ∧
      (job.poll now documents).1.Tells told (tale told (job.poll now documents).1.result?) := by
  induction job generalizing counted with
  | done result => exact ⟨(List.append_nil _).trans h, rfl⟩
  | delay length next ih =>
    obtain ⟨rfl, hnext⟩ := h
    simp only [poll]
    split
    · exact ih hnext
    · exact ⟨rfl, rfl, hnext⟩
  | sleeping wake next ih =>
    obtain ⟨rfl, hnext⟩ := h
    simp only [poll]
    split
    · exact ih hnext
    · exact ⟨rfl, rfl, hnext⟩
  | request url next ih =>
    obtain ⟨rfl, hnext⟩ := h
    simp only [poll]
    split
    · exact ih _ (hnext _)
    · exact ⟨rfl, rfl, hnext _⟩
  | record metric next ih =>
    have hpolled := ih h
    rw [List.append_assoc] at hpolled
    exact hpolled

end Job

namespace Caller

/-- When a caller comes to a result it has counted what the result tells, and nothing before; and so
have the jobs that it gives. The caller here has counted something already, since it last waited. -/
def Tells (built : Except ε α → List Metric) (told : ρ → List Metric) :
    List Metric → Caller ε α ρ → Prop
  | counted, done result => counted = told result
  | counted, record metric next => next.Tells built told (counted ++ [metric])
  | counted, lookup _ _ _ job next =>
    counted = [] ∧ job.Tells built [] ∧ ∀ id result, (next id result).Tells built told []
  | counted, awaiting _ _ _ next =>
    counted = [] ∧ ∀ id result, (next id result).Tells built told []

end Caller

section Sums

variable {β γ : Type} (metric : Metric)

/-- When one of some values is replaced, what they tell changes by what it tells. -/
theorem count_flatMap_modify (tell : β → List Metric) {values : List β} {place : Nat} {value : β}
    (change : β → β) (h : values[place]? = some value) :
    ((values.modify place change).flatMap tell).count metric + (tell value).count metric =
      (values.flatMap tell).count metric + (tell (change value)).count metric := by
  induction values generalizing place with
  | nil => cases h
  | cons head rest ih =>
    cases place with
    | zero =>
      obtain rfl := Option.some.inj h
      simp only [List.modify_zero_cons, List.flatMap_cons, List.count_append]
      omega
    | succ place =>
      have hrest := ih h
      simp only [List.modify_succ_cons, List.flatMap_cons, List.count_append]
      omega

/-- The same of values that stand beside others. -/
theorem count_flatMap_zip_set (tell : γ × β → List Metric) {others : List γ} {values : List β}
    {place : Nat} {other : γ} {value : β} (replacement : β) (hother : others[place]? = some other)
    (hvalue : values[place]? = some value) :
    ((others.zip (values.set place replacement)).flatMap tell).count metric +
        (tell (other, value)).count metric =
      ((others.zip values).flatMap tell).count metric +
        (tell (other, replacement)).count metric := by
  induction others generalizing values place with
  | nil => cases hother
  | cons head rest ih =>
    cases values with
    | nil => cases hvalue
    | cons first later =>
      cases place with
      | zero =>
        obtain rfl := Option.some.inj hother
        obtain rfl := Option.some.inj hvalue
        simp only [List.set_cons_zero, List.zip_cons_cons, List.flatMap_cons, List.count_append]
        omega
      | succ place =>
        have hrest := ih hother hvalue
        simp only [List.set_cons_succ, List.zip_cons_cons, List.flatMap_cons, List.count_append]
        omega

/-- A value that tells nothing may stand at the end. -/
theorem flatMap_zip_concat (tell : γ × β → List Metric) {value : β}
    (silent : ∀ other, tell (other, value) = []) (others : List γ) (values : List β) :
    (others.zip (values ++ [value])).flatMap tell = (others.zip values).flatMap tell := by
  induction others generalizing values with
  | nil => rfl
  | cons head rest ih =>
    cases values with
    | nil => simp [silent]
    | cons first later => simp only [List.cons_append, List.zip_cons_cons, List.flatMap_cons, ih]

/-- The same of a value that has a name. -/
theorem Keyed.count_flatMap_put (tell : β → List Metric) (entries : Keyed β) (name : String)
    (value : β) :
    ((put name value entries).flatMap (tell ·.2)).count metric +
        (((entries.find? name).map tell).getD []).count metric =
      (entries.flatMap (tell ·.2)).count metric + (tell value).count metric := by
  induction entries with
  | nil => simp [put, find?]
  | cons head rest ih =>
    obtain ⟨other, old⟩ := head
    by_cases hname : other = name
    · subst hname
      simp only [put, if_true, find?_cons, Option.map_some, Option.getD_some, List.flatMap_cons,
        List.count_append]
      omega
    · simp only [put, if_neg hname, find?_cons, if_neg (Ne.symm hname), List.flatMap_cons,
        List.count_append]
      omega

end Sums

/-- What the result of a computation tells. -/
def Computation.tale (built : Except ε α → List Metric) (computation : Computation ε α) :
    List Metric :=
  RelyingParty.tale built computation.job.result?

namespace AgedCache

variable (built : Except ε α → List Metric)

/-- What the results of the computations of a cache tell. -/
def tales (cache : AgedCache ε α) : List Metric :=
  cache.computations.flatMap (Computation.tale built)

/-- Every computation has counted what its result tells, and nothing if it is not over. -/
def Tells (cache : AgedCache ε α) : Prop :=
  ∀ computation ∈ cache.computations, computation.job.Tells built (computation.tale built)

variable {built} {cache : AgedCache ε α}

theorem tells_lookup (h : cache.Tells built) {job : Job (Except ε α)} (tells : job.Tells built [])
    (now : Nat) (key : String) (window : Duration) :
    (cache.lookup now key window job).cache.Tells built ∧
      (cache.lookup now key window job).cache.tales built = cache.tales built := by
  have htale : Computation.tale built ⟨key, now, job⟩ = [] := Job.tale_of_tells tells
  simp only [Tells, tales, computations_lookup]
  split
  · simp only [List.forall_mem_append, List.forall_mem_singleton, List.flatMap_append,
      List.flatMap_singleton, htale, List.append_nil, and_true]
    exact ⟨h, tells⟩
  · rw [List.append_nil]
    exact ⟨h, rfl⟩

theorem tells_poll (h : cache.Tells built) (now : Nat) (documents : Documents) (id : Nat) :
    (cache.poll now documents id).cache.Tells built ∧
      ∀ metric, ((cache.poll now documents id).cache.tales built).count metric =
        (cache.tales built).count metric +
          (Job.Effect.metrics (cache.poll now documents id).seen).count metric := by
  unfold poll
  split
  · exact ⟨h, fun _ => rfl⟩
  · next computation hfound =>
    obtain ⟨hcounted, htells⟩ :=
      Job.tells_poll (h computation (List.mem_of_getElem? hfound)) now documents
    refine ⟨fun other hother => ?_, fun metric => ?_⟩
    · obtain ⟨place, hplace⟩ := List.mem_iff_getElem?.mp hother
      rw [getElem?_update] at hplace
      split at hplace
      · obtain ⟨earlier, _, rfl⟩ := Option.map_eq_some_iff.mp hplace
        exact htells
      · exact h other (List.mem_of_getElem? hplace)
    · have hsum := count_flatMap_modify metric (Computation.tale built)
        (fun other => { other with job := (computation.job.poll now documents).1 }) hfound
      have hjob : (computation.tale built).count metric +
          (Job.Effect.metrics (computation.job.poll now documents).2).count metric =
            (Computation.tale built
              { computation with job := (computation.job.poll now documents).1 }).count metric := by
        rw [← List.count_append]
        exact congrArg (List.count metric) hcounted
      simp only [tales, update]
      omega

/-- A cache with the same computations tells the same. -/
theorem Tells.of_computations (h : cache.Tells built) {next : AgedCache ε α}
    (same : next.computations = cache.computations) :
    next.Tells built ∧ next.tales built = cache.tales built := by
  unfold Tells tales at *
  rw [same]
  exact ⟨h, rfl⟩

end AgedCache

namespace Caches

variable (built : Except ε α → List Metric)

/-- What the results of the computations of all caches tell. -/
def tales (caches : Caches ε α) : List Metric :=
  caches.flatMap (·.2.tales built)

/-- Every computation has counted what its result tells, and nothing if it is not over. -/
def Tells (caches : Caches ε α) : Prop :=
  ∀ name, (caches.named name).Tells built

variable {built} {caches : Caches ε α}

/-- When a cache changes, what is told changes by what the cache tells. -/
theorem count_tales_put (built : Except ε α → List Metric) (caches : Caches ε α) (name : String)
    (cache : AgedCache ε α) (metric : Metric) :
    (tales built (Keyed.put name cache caches)).count metric +
        ((caches.named name).tales built).count metric =
      (caches.tales built).count metric + (cache.tales built).count metric := by
  have hput := Keyed.count_flatMap_put metric (AgedCache.tales built) caches name cache
  have hnamed : (caches.named name).tales built =
      ((caches.find? name).map (AgedCache.tales built)).getD [] := by
    unfold named
    cases caches.find? name <;> rfl
  rwa [hnamed]

theorem Tells.put (h : caches.Tells built) {name : String} {cache : AgedCache ε α}
    (tells : cache.Tells built) : Tells built (Keyed.put name cache caches) := by
  intro other
  rw [named_put]
  split
  · exact tells
  · exact h other

theorem tells_lookup (h : caches.Tells built) {job : Job (Except ε α)} (tells : job.Tells built [])
    (now : Nat) (name key : String) (window : Duration) :
    let found := (caches.named name).lookup now key window job
    Tells built (Keyed.put name found.cache caches) ∧
      ∀ metric, (tales built (Keyed.put name found.cache caches)).count metric =
        (caches.tales built).count metric := by
  obtain ⟨hcache, htales⟩ := AgedCache.tells_lookup (h name) tells now key window
  refine ⟨h.put hcache, fun metric => ?_⟩
  have hput := count_tales_put built caches name
    ((caches.named name).lookup now key window job).cache metric
  rw [htales] at hput
  omega

/-- Waiting for a computation changes its cache alone, and in that no computation but this. -/
theorem exists_await_eq (caches : Caches ε α) (now : Nat) (documents : Documents)
    (name key : String) (id : Nat) :
    ∃ cache, (caches.await now documents name key id).caches = Keyed.put name cache caches ∧
      cache.computations = ((caches.named name).poll now documents id).cache.computations := by
  simp only [await]
  split
  · refine ⟨_, rfl, ?_⟩
    unfold AgedCache.evict
    split <;> rfl
  · exact ⟨_, rfl, rfl⟩

/-- Waiting for a computation counts what it counts. -/
theorem tells_await (h : caches.Tells built) (now : Nat) (documents : Documents)
    (name key : String) (id : Nat) :
    let awaited := caches.await now documents name key id
    awaited.caches.Tells built ∧
      ∀ metric, (awaited.caches.tales built).count metric =
        (caches.tales built).count metric + (Observation.metrics awaited.seen).count metric := by
  obtain ⟨htells, hcount⟩ := AgedCache.tells_poll (h name) now documents id
  obtain ⟨lost, hseen, hlost⟩ := caches.seen_await now documents name key id
  have hmetrics : Observation.metrics (caches.await now documents name key id).seen =
      Job.Effect.metrics ((caches.named name).poll now documents id).seen := by
    have hnone : Observation.metrics lost = [] :=
      List.filterMap_eq_nil_iff.mpr fun observation hmember => by rw [(hlost _ hmember).1]
    rw [hseen, Observation.metrics_append, hnone, List.append_nil]
    rfl
  obtain ⟨cache, hcaches, hsame⟩ := caches.exists_await_eq now documents name key id
  obtain ⟨hcache, htales⟩ := htells.of_computations hsame
  simp only [hcaches, hmetrics]
  refine ⟨h.put hcache, fun metric => ?_⟩
  have hput := count_tales_put built caches name cache metric
  have hpoll := hcount metric
  rw [htales] at hput
  omega

end Caches

/-- What a poll leaves, of a caller that had counted something before it: the caller has counted all
that its result tells, or nothing, and beside that the poll has counted what the computations tell
that it brought to an end. -/
structure Caller.Balanced (built : Except ε α → List Metric) (told : ρ → List Metric)
    (counted : List Metric) (before : Caches ε α) (polled : Caller.Polled ε α ρ) : Prop where
  /-- The computations have counted what their results tell. -/
  caches : polled.caches.Tells built
  /-- The caller has counted what its result tells. -/
  caller : polled.caller.Tells built told (tale told polled.caller.result?)
  /-- Nothing else has been counted. -/
  count : ∀ metric, (tale told polled.caller.result?).count metric +
      (polled.caches.tales built).count metric =
    counted.count metric + (before.tales built).count metric +
      (Observation.metrics polled.seen).count metric

/-- Every poll is balanced. -/
theorem Caller.balanced_poll {built : Except ε α → List Metric} {told : ρ → List Metric} (now : Nat)
    (documents : Documents) (caller : Caller ε α ρ) {caches : Caches ε α} {counted : List Metric}
    (h : caller.Tells built told counted) (hcaches : caches.Tells built) :
    Balanced built told counted caches (caller.poll now documents caches) := by
  -- a lookup is followed by the wait for what it has found, so waiting is settled apart
  have hawait (name key : String) (id : Nat) (next : Nat → Except ε α → Caller ε α ρ)
      (ih : ∀ id result {caches : Caches ε α} {counted : List Metric},
        (next id result).Tells built told counted → caches.Tells built →
        Balanced built told counted caches ((next id result).poll now documents caches))
      (hnext : ∀ id result, (next id result).Tells built told []) {caches : Caches ε α}
      (hcaches : caches.Tells built) :
      Balanced built told [] caches ((awaiting name key id next).poll now documents caches) := by
    obtain ⟨hawaited, hcount⟩ := Caches.tells_await hcaches now documents name key id
    simp only [poll]
    split
    · next result _ =>
      have hrest := ih id result (hnext id result) hawaited
      refine ⟨hrest.caches, hrest.caller, fun metric => ?_⟩
      have hfirst := hcount metric
      have hlast := hrest.count metric
      simp only [Polled.after, Observation.metrics_append, List.count_append] at hlast ⊢
      omega
    · refine ⟨hawaited, ⟨rfl, hnext⟩, fun metric => ?_⟩
      have hfirst := hcount metric
      simp only [tale, result?, Option.map_none, Option.getD_none, List.count_nil]
      omega
  induction caller generalizing caches counted with
  | done result =>
    obtain rfl : counted = told result := h
    exact ⟨hcaches, rfl, fun _ => rfl⟩
  | record metric next ih =>
    have hrest := ih h hcaches
    refine ⟨hrest.caches, hrest.caller, fun other => ?_⟩
    have hlast := hrest.count other
    have hone : Observation.metrics [.recorded metric] = [metric] := rfl
    simp only [poll, Polled.after, Observation.metrics_append, List.count_append, hone] at hlast ⊢
    omega
  | lookup name key window job next ih =>
    obtain ⟨rfl, hjob, hnext⟩ := h
    obtain ⟨hlookup, hsame⟩ := Caches.tells_lookup hcaches hjob now name key window
    rw [poll_lookup]
    have hrest := hawait name key ((caches.named name).lookup now key window job).id next ih hnext
      hlookup
    refine ⟨hrest.caches, hrest.caller, fun metric => ?_⟩
    have hlast := hrest.count metric
    have hnone (lookup : Lookup) : Observation.metrics [.lookedUp lookup] = [] := rfl
    simp only [Polled.after, Observation.metrics_append, List.count_append, hnone, hsame,
      List.count_nil] at hlast ⊢
    omega
  | awaiting name key id next ih =>
    obtain ⟨rfl, hnext⟩ := h
    exact hawait name key id next ih hnext hcaches

namespace Pipeline

/-- What the results of callers tell, each in its own way, and those of computations. -/
def tales (built : Except ε α → List Metric) (told : List (ρ → List Metric))
    (pipeline : Pipeline ε α ρ) : List Metric :=
  (told.zip pipeline.callers).flatMap (fun entry => tale entry.1 entry.2.result?) ++
    pipeline.caches.tales built

/-- Every caller and every computation has counted what its result tells, and nothing if it is not
over. -/
structure Tells (built : Except ε α → List Metric) (told : List (ρ → List Metric))
    (pipeline : Pipeline ε α ρ) : Prop where
  /-- The computations have. -/
  caches : pipeline.caches.Tells built
  /-- It is known of all callers what their results tell. -/
  numbered : pipeline.callers.length ≤ told.length
  /-- The callers that are running have counted nothing. -/
  running : ∀ (id : Nat) (tell : ρ → List Metric) (caller : Caller ε α ρ), told[id]? = some tell →
    pipeline.callers[id]? = some (.running caller) → caller.Tells built tell []

variable {built : Except ε α → List Metric} {told : List (ρ → List Metric)}
  {pipeline : Pipeline ε α ρ}

/-- A caller that has been polled is over when it has a result, and otherwise goes on running. -/
theorem exists_slot_arrived (pipeline : Pipeline ε α ρ) (id : Nat)
    (polled : Caller.Polled ε α ρ) :
    ∃ slot : Slot ε α ρ,
      pipeline.arrived id polled =
        { pipeline with caches := polled.caches, callers := pipeline.callers.set id slot } ∧
      slot.result? = polled.caller.result? ∧
      ∀ next, slot = .running next → next = polled.caller ∧ polled.caller.result? = none := by
  refine ⟨_, rfl, ?_⟩
  cases polled.caller.result? with
  | some result => exact ⟨rfl, fun _ h => nomatch h⟩
  | none =>
    refine ⟨rfl, fun next h => ?_⟩
    cases h
    exact ⟨rfl, rfl⟩

/-- A caller of which it is known what its result tells. -/
theorem Tells.exists_tell (h : pipeline.Tells built told) {id : Nat} {slot : Slot ε α ρ}
    (hslot : pipeline.callers[id]? = some slot) : ∃ tell, told[id]? = some tell := by
  have hid := (List.getElem?_eq_some_iff.mp hslot).1
  exact ⟨_, List.getElem?_eq_getElem (Nat.lt_of_lt_of_le hid h.numbered)⟩

/-- A caller that comes to another state leaves the others alone. -/
theorem Tells.set (h : pipeline.Tells built told) {id : Nat} {slot : Slot ε α ρ}
    (running : ∀ tell caller, told[id]? = some tell → slot = .running caller →
      caller.Tells built tell [])
    {caches : Caches ε α} (hcaches : caches.Tells built) :
    Tells built told { pipeline with caches, callers := pipeline.callers.set id slot } := by
  refine ⟨hcaches, by simpa using h.numbered, fun other tell caller htell hcaller => ?_⟩
  rw [List.getElem?_set] at hcaller
  split at hcaller
  · next heq =>
    subst heq
    split at hcaller
    · exact running tell caller htell (Option.some.inj hcaller)
    · cases hcaller
  · exact h.running other tell caller htell hcaller

/-- A poll of a caller counts what it brings to an end. -/
theorem Tells.pollCaller (h : pipeline.Tells built told) (id : Nat) :
    (pipeline.pollCaller id).1.Tells built told ∧
      ∀ metric, ((pipeline.pollCaller id).1.tales built told).count metric =
        (pipeline.tales built told).count metric +
          (Observation.metrics (pipeline.pollCaller id).2).count metric := by
  match hslot : pipeline.callers[id]? with
  | some (.running caller) =>
    obtain ⟨tell, htell⟩ := h.exists_tell hslot
    rw [pollCaller_of_running hslot]
    have hbalanced := caller.balanced_poll pipeline.clock pipeline.documents
      (h.running id tell caller htell hslot) h.caches
    generalize caller.poll pipeline.clock pipeline.documents pipeline.caches = polled at hbalanced
    obtain ⟨slot, harrived, hresult, hrunning⟩ := exists_slot_arrived pipeline id polled
    rw [harrived]
    refine ⟨h.set (fun other next hother hnext => ?_) hbalanced.caches, fun metric => ?_⟩
    · obtain rfl := Option.some.inj (htell.symm.trans hother)
      obtain ⟨rfl, hundone⟩ := hrunning next hnext
      have hcaller := hbalanced.caller
      rw [hundone] at hcaller
      exact hcaller
    · have hset := count_flatMap_zip_set metric (fun entry : (ρ → List Metric) × Slot ε α ρ =>
        RelyingParty.tale entry.1 entry.2.result?) slot htell hslot
      have hcount := hbalanced.count metric
      have hbefore : RelyingParty.tale tell (Slot.running caller : Slot ε α ρ).result? = [] := rfl
      simp only [tales, List.count_append, hresult, hbefore, List.count_nil] at hset hcount ⊢
      omega
  | none | some (.finished _) | some .dropped =>
    simp only [Pipeline.pollCaller, hslot]
    exact ⟨h, fun _ => rfl⟩

/-- A caller that starts has counted nothing. -/
theorem Tells.start (h : pipeline.Tells built told) {caller : Caller ε α ρ} {tell : ρ → List Metric}
    (htell : told[pipeline.callers.length]? = some tell) (tells : caller.Tells built tell []) :
    Tells built told { pipeline with callers := pipeline.callers ++ [.running caller] } := by
  have hlength := (List.getElem?_eq_some_iff.mp htell).1
  refine ⟨h.caches, by rw [List.length_append]; exact hlength, fun id other next hother hnext => ?_⟩
  by_cases hid : id < pipeline.callers.length
  · rw [List.getElem?_append_left hid] at hnext
    exact h.running id other next hother hnext
  · rw [List.getElem?_append_right (Nat.not_lt.mp hid), List.getElem?_singleton,
      Option.ite_none_right_eq_some] at hnext
    obtain ⟨hlast, hcaller⟩ := hnext
    obtain rfl : id = pipeline.callers.length := by omega
    cases hcaller
    obtain rfl := Option.some.inj (htell.symm.trans hother)
    exact tells

/-- A caller that is dropped has counted nothing. -/
theorem Tells.dropCaller (h : pipeline.Tells built told) (id : Nat) :
    (pipeline.dropCaller id).Tells built told ∧
      ∀ metric, ((pipeline.dropCaller id).tales built told).count metric =
        (pipeline.tales built told).count metric := by
  unfold Pipeline.dropCaller
  split
  · next caller hslot =>
    obtain ⟨tell, htell⟩ := h.exists_tell hslot
    refine ⟨h.set (fun _ _ _ heq => by cases heq) h.caches, fun metric => ?_⟩
    have hset := count_flatMap_zip_set metric (fun entry : (ρ → List Metric) × Slot ε α ρ =>
      RelyingParty.tale entry.1 entry.2.result?) .dropped htell hslot
    have hbefore : RelyingParty.tale tell (Slot.running caller : Slot ε α ρ).result? = [] := rfl
    have hafter : RelyingParty.tale tell (Slot.dropped : Slot ε α ρ).result? = [] := rfl
    simp only [tales, List.count_append, hbefore, hafter, List.count_nil] at hset ⊢
    omega
  · exact ⟨h, fun _ => rfl⟩

/-- The computations of a cache count as before when it loses entries. -/
theorem Tells.changeCache (h : pipeline.Tells built told) (name : String)
    {change : AgedCache ε α → AgedCache ε α}
    (same : ∀ cache, (change cache).computations = cache.computations) :
    (pipeline.changeCache name change).Tells built told ∧
      ∀ metric, ((pipeline.changeCache name change).tales built told).count metric =
        (pipeline.tales built told).count metric := by
  obtain ⟨hcache, htales⟩ := (h.caches name).of_computations (same _)
  refine ⟨⟨h.caches.put hcache, h.numbered, h.running⟩, fun metric => ?_⟩
  have hput := Caches.count_tales_put built pipeline.caches name
    (change (pipeline.caches.named name)) metric
  rw [htales] at hput
  simp only [tales, Pipeline.changeCache, List.count_append]
  omega

/-- What an event counts is what it brings to an end. -/
theorem Tells.step (h : pipeline.Tells built told) (event : Event ε α ρ)
    (starts : ∀ caller, event = .start caller → ∃ tell,
      told[pipeline.callers.length]? = some tell ∧ caller.Tells built tell []) :
    (pipeline.step event).1.Tells built told ∧
      ∀ metric, ((pipeline.step event).1.tales built told).count metric =
        (pipeline.tales built told).count metric +
          (Observation.metrics (pipeline.step event).2).count metric := by
  cases event with
  | poll id => exact h.pollCaller id
  | start caller =>
    obtain ⟨tell, htell, hcaller⟩ := starts caller rfl
    refine ⟨h.start htell hcaller, fun metric => ?_⟩
    have hsilent (other : ρ → List Metric) :
        RelyingParty.tale other (Slot.running caller : Slot ε α ρ).result? = [] := rfl
    have hzip := flatMap_zip_concat (fun entry : (ρ → List Metric) × Slot ε α ρ =>
      RelyingParty.tale entry.1 entry.2.result?) hsilent told pipeline.callers
    simp only [Pipeline.step, tales, hzip]
    rfl
  | drop id => exact h.dropCaller id
  | invalidate cache key =>
    have hsame (cache : AgedCache ε α) : (cache.invalidate key).computations = cache.computations :=
      rfl
    exact h.changeCache cache hsame
  | clear cache =>
    have hsame (cache : AgedCache ε α) : cache.clear.computations = cache.computations := rfl
    exact h.changeCache cache hsame
  | pass | publish | withdraw => exact ⟨⟨h.caches, h.numbered, h.running⟩, fun _ => rfl⟩

/-- An event adds the callers that it starts. -/
theorem length_callers_step (pipeline : Pipeline ε α ρ) (event : Event ε α ρ) :
    (pipeline.step event).1.callers.length =
      pipeline.callers.length + (Event.started [event]).length := by
  cases event with
  | poll id =>
    simp only [Pipeline.step, Pipeline.pollCaller]
    split
    · exact List.length_set
    · rfl
  | drop id =>
    simp only [Pipeline.step, Pipeline.dropCaller]
    split
    · exact List.length_set
    · rfl
  | start caller => exact List.length_append
  | pass | publish | withdraw | invalidate | clear => rfl

/-- What a run counts is what it brings to an end. -/
theorem Tells.run (h : pipeline.Tells built told) (events : List (Event ε α ρ))
    (starts : ∀ (place : Nat) (caller : Caller ε α ρ),
      (Event.started events)[place]? = some caller → ∃ tell,
        told[pipeline.callers.length + place]? = some tell ∧ caller.Tells built tell []) :
    (pipeline.run events).1.Tells built told ∧
      ∀ metric, ((pipeline.run events).1.tales built told).count metric =
        (pipeline.tales built told).count metric +
          (Observation.metrics (pipeline.run events).2).count metric := by
  induction events generalizing pipeline with
  | nil => exact ⟨h, fun _ => rfl⟩
  | cons event rest ih =>
    have hsplit : Event.started (event :: rest) = Event.started [event] ++ Event.started rest :=
      Event.started_append [event] rest
    obtain ⟨hnext, hfirst⟩ := h.step event (by
      rintro caller rfl
      exact starts 0 caller rfl)
    obtain ⟨hrun, hlast⟩ := ih hnext fun place caller hcaller => by
      rw [length_callers_step, Nat.add_assoc]
      refine starts _ caller ?_
      rw [hsplit, List.getElem?_append_right (Nat.le_add_right _ _), Nat.add_sub_cancel_left,
        hcaller]
    refine ⟨hrun, fun metric => ?_⟩
    have hthen := hfirst metric
    have hlater := hlast metric
    simp only [Pipeline.run, Observation.metrics_append, List.count_append]
    omega

/-- After every run what has been counted is, up to the order, what the results tell of the callers
and of the computations that are over. -/
theorem perm_run (built : Except ε α → List Metric) (told : List (ρ → List Metric))
    (documents : Documents) (events : List (Event ε α ρ))
    (starts : ∀ (place : Nat) (caller : Caller ε α ρ),
      (Event.started events)[place]? = some caller → ∃ tell,
        told[place]? = some tell ∧ caller.Tells built tell []) :
    (Observation.metrics ((opened documents).run events).2).Perm
      (((opened documents).run events).1.tales built told) := by
  have hopened : (opened documents : Pipeline ε α ρ).Tells built told :=
    ⟨fun _ _ h => absurd h List.not_mem_nil, Nat.zero_le _, fun id _ _ _ h => by
      simp [opened] at h⟩
  have hrun := (hopened.run events fun place caller hcaller => by
    rw [show (opened documents : Pipeline ε α ρ).callers.length = 0 from rfl, Nat.zero_add]
    exact starts place caller hcaller).2
  have hnone : (opened documents : Pipeline ε α ρ).tales built told = [] := by
    simp [tales, opened, Caches.tales]
  rw [List.perm_iff_count]
  intro metric
  rw [hrun, hnone, List.count_nil, Nat.zero_add]

end Pipeline

end RelyingParty
