import RelyingParty.Proofs.Cache.Soundness

/-!
# Callers alone

What comes of a caller that nobody disturbs: from some moment on nothing happens but that it is
polled and that time passes. How often it is polled and how long that takes makes no difference but
for the moments at which it looks keys up. A computation that it waits for comes to what its job
comes to at once, with the documents that are to be had, and does all that is left to do.
-/

namespace RelyingParty

variable {ε α ρ : Type}

/-- A poll takes a job to where it goes anyway: what it did and what is left to do is what there was
to do. -/
theorem Job.complete_poll {α : Type} (now : Nat) (documents : Documents) (job : Job α) :
    job.complete documents.retrieve =
      (((job.poll now documents).1.complete documents.retrieve).1,
        (job.poll now documents).2 ++
          ((job.poll now documents).1.complete documents.retrieve).2) := by
  induction job with
  | done result => rfl
  | delay length next ih | sleeping wake next ih =>
    simp only [poll]
    split
    · exact ih
    · rfl
  | request url next ih =>
    simp only [poll]
    split
    · simp only [complete]
      rw [Documents.retrieve, ih]
      rfl
    · rfl
  | record metric next ih =>
    simp only [poll, complete]
    rw [ih]
    rfl

namespace AgedCache

/-- The cache after a computation has come to a result and been seen to fail, if it has failed. -/
def settle (cache : AgedCache ε α) (key : String) (id : Nat) (result : Except ε α) :
    AgedCache ε α :=
  match result with
  | .ok _ => cache.update id (.done result)
  | .error _ => (cache.update id (.done result)).evict key id

/-- What a lookup finds is there. -/
theorem exists_computation_lookup (cache : AgedCache ε α) (now : Nat) (key : String)
    (window : Duration) (job : Job (Except ε α)) :
    ∃ computation, (cache.lookup now key window job).cache.computations[
      (cache.lookup now key window job).id]? = some computation := by
  unfold lookup
  split
  · next id hfresh =>
    obtain ⟨_, computation, hfound, _⟩ := (fresh?_eq_some_iff cache now key window id).mp hfresh
    exact ⟨computation, hfound⟩
  · exact ⟨⟨key, now, job⟩, by simp [install]⟩

theorem update_update (cache : AgedCache ε α) (id : Nat) (first last : Job (Except ε α)) :
    (cache.update id first).update id last = cache.update id last := by
  simp only [update, List.modify_modify_eq]
  rfl

theorem settle_update (cache : AgedCache ε α) (key : String) (id : Nat) (job : Job (Except ε α))
    (result : Except ε α) :
    (cache.update id job).settle key id result = cache.settle key id result := by
  cases result <;> simp only [settle, update_update]

end AgedCache

namespace Caches

/-- The caches after a computation has come to a result and been seen to fail, if it has failed. -/
def settle (caches : Caches ε α) (name key : String) (id : Nat) (result : Except ε α) :
    Caches ε α :=
  Keyed.put name ((caches.named name).settle key id result) caches

/-- The entry that is taken away when a computation is seen to have come to a result. -/
def lost (caches : Caches ε α) (name key : String) (id : Nat) (result : Except ε α) :
    List Observation :=
  match result with
  | .ok _ => []
  | .error _ =>
    if (caches.named name).entries.find? key = some id then [.evicted name key id] else []

theorem settle_put_update (caches : Caches ε α) (name key : String) (id : Nat)
    (job : Job (Except ε α)) (result : Except ε α) :
    settle (Keyed.put name ((caches.named name).update id job) caches) name key id result =
      caches.settle name key id result := by
  rw [settle, named_put, if_pos rfl, AgedCache.settle_update, Keyed.put_put, settle]

theorem lost_put_update (caches : Caches ε α) (name key : String) (id : Nat)
    (job : Job (Except ε α)) (result : Except ε α) :
    lost (Keyed.put name ((caches.named name).update id job) caches) name key id result =
      caches.lost name key id result := by
  simp only [lost, named_put, if_pos, AgedCache.update]

variable {caches : Caches ε α} {name : String} {id : Nat} {computation : Computation ε α}
  {now : Nat} {documents : Documents}

/-- Waiting for a computation that comes to its result. -/
theorem await_of_poll_done (found : (caches.named name).computations[id]? = some computation)
    {result : Except ε α} (ended : (computation.job.poll now documents).1 = .done result)
    (key : String) :
    caches.await now documents name key id = ⟨caches.settle name key id result, some result,
      (computation.job.poll now documents).2.map Job.Effect.observation ++
        caches.lost name key id result⟩ := by
  have hpoll : (caches.named name).poll now documents id =
      ⟨(caches.named name).update id (.done result), some result,
        (computation.job.poll now documents).2⟩ := by
    simp only [AgedCache.poll, found, ended, Job.result?]
  simp only [await, hpoll]
  cases result with
  | ok value => simp [settle, AgedCache.settle, lost]
  | error fault =>
    simp only [settle, AgedCache.settle, lost, AgedCache.update]
    rfl

/-- What is waited for has come to its result by then. -/
theorem poll_done_of_await {key : String} {result : Except ε α}
    (ended : (caches.await now documents name key id).result = some result) :
    ∃ computation, (caches.named name).computations[id]? = some computation ∧
      (computation.job.poll now documents).1 = .done result := by
  rw [result_await, AgedCache.poll] at ended
  split at ended
  · cases ended
  · next computation hfound => exact ⟨computation, hfound, Job.eq_done_of_result? ended⟩

/-- Waiting for a computation that does not come to its result yet. -/
theorem await_of_poll_pending (found : (caches.named name).computations[id]? = some computation)
    (pending : (computation.job.poll now documents).1.result? = none) (key : String) :
    caches.await now documents name key id =
      ⟨Keyed.put name ((caches.named name).update id (computation.job.poll now documents).1) caches,
        none, (computation.job.poll now documents).2.map Job.Effect.observation⟩ := by
  have hpoll : (caches.named name).poll now documents id =
      ⟨(caches.named name).update id (computation.job.poll now documents).1, none,
        (computation.job.poll now documents).2⟩ := by
    simp only [AgedCache.poll, found, pending]
  simp only [await, hpoll]

end Caches

/-- Some records show what was observed of a caller, while the documents were the same. -/
def History.Shows (records : History) (documents : Documents) (caller : Nat)
    (seen : List Observation) : Prop :=
  records.map (fun record => (record.documents, record.happening)) =
    seen.map fun observation => (documents, .observed caller observation)

theorem History.shows_stamped (now : Nat) (documents : Documents) (caller : Nat)
    (seen : List Observation) :
    Shows (seen.map fun observation => ⟨now, documents, .observed caller observation⟩) documents
      caller seen := by
  simp [Shows]

theorem History.Shows.append {first last : History} {documents : Documents} {caller : Nat}
    {earlier later : List Observation} (hfirst : first.Shows documents caller earlier)
    (hlast : last.Shows documents caller later) :
    Shows (first ++ last) documents caller (earlier ++ later) := by
  rw [Shows, List.map_append, List.map_append, hfirst, hlast]

/-- What comes of a caller that is alone, from a moment and caches on: what happens, the caches
afterwards, and the result. -/
inductive Caller.Alone (documents : Documents) (caller : Nat) :
    Nat → Caches ε α → Caller ε α ρ → History → Caches ε α → ρ → Prop where
  /-- It is done. -/
  | done (now : Nat) (caches : Caches ε α) (result : ρ) :
    Alone documents caller now caches (.done result) [] caches result
  /-- It counts something. -/
  | record {now moment : Nat} {caches last : Caches ε α} {metric : Metric} {next : Caller ε α ρ}
    {history : History} {result : ρ} (later : now ≤ moment)
    (rest : Alone documents caller moment caches next history last result) :
    Alone documents caller now caches (.record metric next)
      (⟨moment, documents, .observed caller (.recorded metric)⟩ :: history) last result
  /-- It looks a key up. -/
  | lookup {now moment : Nat} {caches last : Caches ε α} {name key : String} {window : Duration}
    {job : Job (Except ε α)} {next : Nat → Except ε α → Caller ε α ρ} {history : History}
    {result : ρ} (later : now ≤ moment)
    (rest : Alone documents caller moment
      (Keyed.put name ((caches.named name).lookup moment key window job).cache caches)
      (.awaiting name key ((caches.named name).lookup moment key window job).id next) history last
      result) :
    Alone documents caller now caches (.lookup name key window job next)
      (⟨moment, documents, .observed caller (.lookedUp
        ⟨name, key, window, ((caches.named name).lookup moment key window job).id,
          ((caches.named name).lookup moment key window job).isNew⟩)⟩ :: history) last result
  /-- It waits until a computation comes to its result. -/
  | await {now moment : Nat} {caches last : Caches ε α} {name key : String} {id : Nat}
    {next : Nat → Except ε α → Caller ε α ρ} {computation : Computation ε α}
    {waited history : History} {result : ρ} (later : now ≤ moment)
    (found : (caches.named name).computations[id]? = some computation)
    (shows : waited.Shows documents caller
      ((computation.job.complete documents.retrieve).2.map Job.Effect.observation ++
        caches.lost name key id (computation.job.complete documents.retrieve).1))
    (rest : Alone documents caller moment
      (caches.settle name key id (computation.job.complete documents.retrieve).1)
      (next id (computation.job.complete documents.retrieve).1) history last result) :
    Alone documents caller now caches (.awaiting name key id next) (waited ++ history) last result

namespace Caller

variable {documents : Documents} {id now : Nat} {caches last : Caches ε α} {caller : Caller ε α ρ}
  {history : History} {result : ρ}

/-- A caller that begins later might as well have begun before. -/
theorem Alone.mono {earlier : Nat} (h : caller.Alone documents id now caches history last result)
    (le : earlier ≤ now) : caller.Alone documents id earlier caches history last result := by
  cases h with
  | done => exact .done earlier caches result
  | record later rest => exact .record (Nat.le_trans le later) rest
  | lookup later rest => exact .lookup (Nat.le_trans le later) rest
  | await later found shows rest => exact .await (Nat.le_trans le later) found shows rest

/-- A step that a caller takes belongs to what comes of it alone. -/
theorem Alone.of_step {polled : Polled ε α ρ} (step : Step now documents caches caller polled)
    (rest : polled.caller.Alone documents id now polled.caches history last result) :
    caller.Alone documents id now caches
      ((polled.seen.map fun observation => ⟨now, documents, .observed id observation⟩) ++ history)
      last result := by
  cases step with
  | record metric next => exact .record (Nat.le_refl now) rest
  | lookup name key window job next => exact .lookup (Nat.le_refl now) rest
  | @resume name key place next found ended =>
    obtain ⟨computation, hfound, hended⟩ := Caches.poll_done_of_await ended
    have hawait := Caches.await_of_poll_done hfound hended key
    have hcomplete : computation.job.complete documents.retrieve =
        (found, (computation.job.poll now documents).2) := by
      rw [computation.job.complete_poll now, hended]
      simp [Job.complete]
    simp only [hawait] at rest ⊢
    refine .await (Nat.le_refl now) hfound ?_ (by rw [hcomplete]; exact rest)
    rw [hcomplete]
    exact History.shows_stamped now documents id _
  | wait name key place next waiting =>
    cases hfound : (caches.named name).computations[place]? with
    | none =>
      have hnone := Caches.computation_await_eq_none hfound now documents name key place
      cases rest with
      | await later found shows rest =>
        rw [hnone] at found
        cases found
    | some computation =>
      have hpending : (computation.job.poll now documents).1.result? = none := by
        rw [Caches.result_await, AgedCache.poll, hfound] at waiting
        exact waiting
      have hawait := Caches.await_of_poll_pending hfound hpending key
      simp only [hawait] at rest ⊢
      cases rest with
      | @await _ moment _ _ _ _ _ _ polled waited history _ later found shows rest =>
        rw [Caches.named_put, if_pos rfl, AgedCache.getElem?_update, if_pos rfl, hfound] at found
        obtain rfl := Option.some.inj found
        rw [Caches.lost_put_update] at shows
        rw [Caches.settle_put_update] at rest
        -- the rest of the job is done as it would have been, after what this poll did
        have hcomplete := computation.job.complete_poll now documents
        rw [← List.append_assoc]
        refine .await later hfound ?_ (by rw [hcomplete]; exact rest)
        rw [hcomplete, List.map_append, List.append_assoc]
        exact (History.shows_stamped now documents id _).append shows

/-- The steps that a caller takes at a moment belong to what comes of it alone. -/
theorem Alone.of_steps {polled : Polled ε α ρ} (steps : Steps now documents caches caller polled)
    (rest : polled.caller.Alone documents id now polled.caches history last result) :
    caller.Alone documents id now caches
      ((polled.seen.map fun observation => ⟨now, documents, .observed id observation⟩) ++ history)
      last result := by
  induction steps with
  | refl => exact rest
  | @head caches caller first final step steps ih =>
    have hrest := (ih rest).of_step step
    simpa only [Polled.after, List.map_append, List.append_assoc] using hrest

end Caller

/-- What looking a key up comes to for a caller that is alone: the lookup, what is observed
afterwards, the caches in the end, and the result. -/
inductive Caches.Obtains (caches : Caches ε α) (documents : Documents) (now : Nat)
    (name key : String) (window : Duration) (job : Job (Except ε α)) :
    Lookup → List Observation → Caches ε α → Except ε α → Prop where
  /-- There is an entry that is young enough: its computation is brought to its result. -/
  | joins {id : Nat} {computation : Computation ε α}
    (held : (caches.named name).entries.find? key = some id)
    (found : (caches.named name).computations[id]? = some computation)
    (young : now ≤ computation.since + window.total) :
    Obtains caches documents now name key window job ⟨name, key, window, id, false⟩
      ((computation.job.complete documents.retrieve).2.map Job.Effect.observation ++
        caches.lost name key id (computation.job.complete documents.retrieve).1)
      (caches.settle name key id (computation.job.complete documents.retrieve).1)
      (computation.job.complete documents.retrieve).1
  /-- There is none: the job is done from its beginning. -/
  | starts (stale : (caches.named name).fresh? now key window = none) {id : Nat}
    (hid : id = (caches.named name).computations.length) {installed : Caches ε α}
    (hinstalled : installed = Keyed.put name ((caches.named name).install now key job) caches) :
    Obtains caches documents now name key window job ⟨name, key, window, id, true⟩
      ((job.complete documents.retrieve).2.map Job.Effect.observation ++
        installed.lost name key id (job.complete documents.retrieve).1)
      (installed.settle name key id (job.complete documents.retrieve).1)
      (job.complete documents.retrieve).1

/-- A caller that is alone and looks a key up goes on with what that comes to. -/
theorem Caller.Alone.obtains {documents : Documents} {caller now : Nat} {caches last : Caches ε α}
    {name key : String} {window : Duration} {job : Job (Except ε α)}
    {next : Nat → Except ε α → Caller ε α ρ} {history : History} {result : ρ}
    (h : (Caller.lookup name key window job next).Alone documents caller now caches history last
      result) :
    ∃ moment later lookup seen middle found waited rest, now ≤ moment ∧ moment ≤ later ∧
      caches.Obtains documents moment name key window job lookup seen middle found ∧
      waited.Shows documents caller seen ∧
      (next lookup.id found).Alone documents caller later middle rest last result ∧
      history = ⟨moment, documents, .observed caller (.lookedUp lookup)⟩ :: (waited ++ rest) := by
  cases h with
  | @lookup _ moment _ _ _ _ _ _ _ _ _ hmoment hawait =>
    cases hawait with
    | @await _ later _ _ _ _ _ _ computation waited rest _ hlater hfound hshows hrest =>
      cases hfresh : (caches.named name).fresh? moment key window with
      | some id =>
        obtain ⟨hheld, held, hthere, hyoung⟩ :=
          ((caches.named name).fresh?_eq_some_iff moment key window id).mp hfresh
        have hlookup : (caches.named name).lookup moment key window job =
            ⟨caches.named name, id, false⟩ := by
          simp only [AgedCache.lookup, hfresh]
        rw [hlookup, caches.put_named hthere] at hfound hshows hrest
        obtain rfl := Option.some.inj (hthere.symm.trans hfound)
        rw [hlookup]
        exact ⟨moment, later, _, _, _, _, waited, rest, hmoment, hlater,
          .joins hheld hthere hyoung, hshows, hrest, rfl⟩
      | none =>
        have hlookup : (caches.named name).lookup moment key window job =
            ⟨(caches.named name).install moment key job,
              (caches.named name).computations.length, true⟩ := by
          simp only [AgedCache.lookup, hfresh]
        rw [hlookup] at hfound hshows hrest
        simp only [Caches.named_put, if_pos, AgedCache.install] at hfound
        obtain rfl : ⟨key, moment, job⟩ = computation := by simpa using hfound
        rw [hlookup]
        exact ⟨moment, later, _, _, _, _, waited, rest, hmoment, hlater,
          .starts hfresh rfl rfl, hshows, hrest, rfl⟩

/-- Nothing happens but that a caller is polled and time passes. -/
def Event.Alone (id : Nat) : Event ε α ρ → Prop
  | .poll other => other = id
  | .pass _ => True
  | _ => False

namespace Pipeline

variable {id : Nat} {pipeline : Pipeline ε α ρ} {caller : Caller ε α ρ} {result : ρ}

/-- The state after a caller has come to another state with a poll. -/
def arrived (pipeline : Pipeline ε α ρ) (id : Nat) (polled : Caller.Polled ε α ρ) :
    Pipeline ε α ρ :=
  { pipeline with
    caches := polled.caches
    callers := pipeline.callers.set id
      (match polled.caller.result? with
      | some result => .finished result
      | none => .running polled.caller) }

theorem pollCaller_of_running (running : pipeline.callers[id]? = some (.running caller)) :
    pipeline.pollCaller id =
      (pipeline.arrived id (caller.poll pipeline.clock pipeline.documents pipeline.caches),
        (caller.poll pipeline.clock pipeline.documents pipeline.caches).seen) := by
  simp only [pollCaller, running]
  rfl

/-- A caller that has come to its end is done. -/
theorem finished_arrived (hid : id < pipeline.callers.length) {polled : Caller.Polled ε α ρ}
    (done : polled.caller = .done result) :
    (pipeline.arrived id polled).callers[id]? = some (.finished result) := by
  simp only [arrived, done, Caller.result?, List.getElem?_set_self hid]

/-- A caller that has not come to its end goes on running. -/
theorem running_arrived (hid : id < pipeline.callers.length) {polled : Caller.Polled ε α ρ}
    (undone : polled.caller.result? = none) :
    (pipeline.arrived id polled).callers[id]? = some (.running polled.caller) := by
  simp only [arrived, undone, List.getElem?_set_self hid]

/-- A caller that comes to its end at once is done when it has been started and polled. -/
theorem finished_run_start
    (comes : (caller.poll pipeline.clock pipeline.documents pipeline.caches).caller =
      .done result) :
    (pipeline.run [.start caller, .poll pipeline.callers.length]).1.callers[
      pipeline.callers.length]? = some (.finished result) := by
  have running : (pipeline.step (.start caller)).1.callers[pipeline.callers.length]? =
      some (.running caller) := by
    simp only [step, List.getElem?_concat_length]
  have hpoll := pollCaller_of_running running
  simp only [run, step] at hpoll ⊢
  rw [hpoll]
  exact finished_arrived (List.getElem?_eq_some_iff.mp running).1 comes

/-- When a caller that is alone is done nothing happens any more. -/
theorem run_of_finished {events : List (Event ε α ρ)} (alone : ∀ event ∈ events, event.Alone id)
    (ended : pipeline.callers[id]? = some (.finished result)) :
    (pipeline.run events).1.callers[id]? = some (.finished result) ∧
      (pipeline.run events).1.caches = pipeline.caches ∧ pipeline.history events = [] := by
  induction events generalizing pipeline with
  | nil => exact ⟨ended, rfl, rfl⟩
  | cons event rest ih =>
    have hrest : ∀ event ∈ rest, event.Alone id :=
      fun event hevent => alone event (List.mem_cons_of_mem _ hevent)
    have hevent := alone event List.mem_cons_self
    cases event with
    | poll other =>
      obtain rfl : other = id := hevent
      have hpoll : pipeline.pollCaller other = (pipeline, []) := by
        simp only [pollCaller, ended]
      simp only [run, history, step, records, hpoll]
      exact ih hrest ended
    | pass length =>
      simp only [run, history, step, records]
      exact ih hrest ended
    | _ => exact hevent.elim

/-- A run in which a caller is alone and comes to its end. -/
theorem alone_of_finished (running : pipeline.callers[id]? = some (.running caller))
    {events : List (Event ε α ρ)} (alone : ∀ event ∈ events, event.Alone id)
    (ended : (pipeline.run events).1.callers[id]? = some (.finished result)) :
    caller.Alone pipeline.documents id pipeline.clock pipeline.caches (pipeline.history events)
      (pipeline.run events).1.caches result := by
  induction events generalizing pipeline caller with
  | nil =>
    rw [run, running] at ended
    cases ended
  | cons event rest ih =>
    have hrest : ∀ event ∈ rest, event.Alone id :=
      fun event hevent => alone event (List.mem_cons_of_mem _ hevent)
    have hevent := alone event List.mem_cons_self
    cases event with
    | pass length =>
      have h := @ih { pipeline with clock := pipeline.clock + length } caller running hrest ended
      exact h.mono (Nat.le_add_right _ _)
    | poll other =>
      obtain rfl : other = id := hevent
      have hid := (List.getElem?_eq_some_iff.mp running).1
      have hsteps := Caller.steps_poll pipeline.clock pipeline.documents caller pipeline.caches
      simp only [run, history, step, records, pollCaller_of_running running] at ended ⊢
      refine Caller.Alone.of_steps hsteps ?_
      cases hresult : (caller.poll pipeline.clock pipeline.documents
          pipeline.caches).caller.result? with
      | none => exact ih (running_arrived hid hresult) hrest ended
      | some found =>
        have hdone := Caller.eq_done_of_result? hresult
        obtain ⟨hlast, hcaches, hquiet⟩ := run_of_finished hrest (finished_arrived hid hdone)
        obtain rfl := Slot.finished.inj (Option.some.inj (hlast.symm.trans ended))
        rw [hcaches, hquiet, hdone]
        exact .done _ _ _
    | _ => exact hevent.elim

/-- A caller can come to its end alone. -/
def Ends (id : Nat) (pipeline : Pipeline ε α ρ) : Prop :=
  ∃ events result, (∀ event ∈ events, event.Alone id) ∧
    (pipeline.run events).1.callers[id]? = some (.finished result)

theorem ends_of_finished (ended : pipeline.callers[id]? = some (.finished result)) :
    pipeline.Ends id :=
  ⟨[], result, fun _ h => absurd h List.not_mem_nil, ended⟩

theorem Ends.of_step (event : Event ε α ρ) (alone : event.Alone id)
    (h : (pipeline.step event).1.Ends id) : pipeline.Ends id := by
  obtain ⟨events, result, halone, hended⟩ := h
  refine ⟨event :: events, result, ?_, hended⟩
  intro other hother
  rcases List.mem_cons.mp hother with rfl | hrest
  · exact alone
  · exact halone other hrest

theorem Ends.of_poll (running : pipeline.callers[id]? = some (.running caller))
    (h : (pipeline.arrived id (caller.poll pipeline.clock pipeline.documents
      pipeline.caches)).Ends id) : pipeline.Ends id := by
  refine Ends.of_step (.poll id) rfl ?_
  rw [step, pollCaller_of_running running]
  exact h

section Waiting

variable {name key : String} {place : Nat} {next : Nat → Except ε α → Caller ε α ρ}

/-- Whatever a caller gets for what it waits for, it can come to its end from there on. -/
def Proceeds (id place : Nat) (next : Nat → Except ε α → Caller ε α ρ) : Prop :=
  ∀ (result : Except ε α) (pipeline : Pipeline ε α ρ) (caches : Caches ε α),
    id < pipeline.callers.length →
    (pipeline.arrived id
      ((next place result).poll pipeline.clock pipeline.documents caches)).Ends id

/-- A poll of a caller that waits brings it further, or its computation. -/
theorem Ends.of_await (proceeds : Proceeds id place next) (hid : id < pipeline.callers.length)
    {caches : Caches ε α} {computation : Computation ε α}
    (found : (caches.named name).computations[place]? = some computation)
    (pending : (computation.job.poll pipeline.clock pipeline.documents).1.result? = none →
      ∀ {later : Pipeline ε α ρ} {polled : Computation ε α},
      later.documents = pipeline.documents →
      later.callers[id]? = some (.running (.awaiting name key place next)) →
      (later.caches.named name).computations[place]? = some polled →
      polled.job = (computation.job.poll pipeline.clock pipeline.documents).1 → later.Ends id) :
    (pipeline.arrived id ((Caller.awaiting name key place next).poll pipeline.clock
      pipeline.documents caches)).Ends id := by
  cases hresult : (computation.job.poll pipeline.clock pipeline.documents).1.result? with
  | some result =>
    have hawait := Caches.await_of_poll_done found (Job.eq_done_of_result? hresult) key
    simp only [Caller.poll, hawait]
    exact proceeds result pipeline _ hid
  | none =>
    have hawait := Caches.await_of_poll_pending found hresult key
    simp only [Caller.poll, hawait]
    have hpolled : (Caches.named (Keyed.put name ((caches.named name).update place
        (computation.job.poll pipeline.clock pipeline.documents).1) caches)
          name).computations[place]? =
        some { computation with
          job := (computation.job.poll pipeline.clock pipeline.documents).1 } := by
      rw [Caches.named_put, if_pos rfl, AgedCache.getElem?_update, if_pos rfl, found]
      rfl
    exact pending hresult rfl (running_arrived hid rfl) hpolled rfl

/-- A caller that waits for a computation can come to its end, however far the computation has
come. -/
theorem ends_of_awaiting (proceeds : Proceeds id place next) (job : Job (Except ε α)) {now : Nat}
    {computation : Computation ε α}
    (running : pipeline.callers[id]? = some (.running (.awaiting name key place next)))
    (found : (pipeline.caches.named name).computations[place]? = some computation)
    (left : computation.job = (job.poll now pipeline.documents).1) : pipeline.Ends id := by
  -- when the job sleeps, time passes until it wakes, and then it goes on
  have hsleep {pipeline : Pipeline ε α ρ} {computation : Computation ε α} {wake : Nat}
      {rest : Job (Except ε α)}
      (ih : ∀ {later : Pipeline ε α ρ} {now : Nat} {computation : Computation ε α},
        later.callers[id]? = some (.running (.awaiting name key place next)) →
        (later.caches.named name).computations[place]? = some computation →
        computation.job = (rest.poll now later.documents).1 → later.Ends id)
      (running : pipeline.callers[id]? = some (.running (.awaiting name key place next)))
      (found : (pipeline.caches.named name).computations[place]? = some computation)
      (left : computation.job = .sleeping wake rest) : pipeline.Ends id := by
    let awake : Pipeline ε α ρ := { pipeline with clock := pipeline.clock + wake }
    have hpoll : computation.job.poll awake.clock awake.documents =
        rest.poll awake.clock awake.documents := by
      rw [left, Job.poll, if_pos (Nat.le_add_left _ _)]
    have hstill : awake.callers[id]? = some (.running (.awaiting name key place next)) := running
    have hid : id < awake.callers.length := (List.getElem?_eq_some_iff.mp hstill).1
    have hthere : (awake.caches.named name).computations[place]? = some computation := found
    have hawake : awake.Ends id := by
      refine Ends.of_poll hstill (Ends.of_await proceeds hid hthere ?_)
      intro _ later polled hdocuments hrunning hfound hjob
      rw [hpoll, ← hdocuments] at hjob
      exact ih hrunning hfound hjob
    exact Ends.of_step (.pass wake) trivial hawake
  induction job generalizing pipeline now computation with
  | done result =>
    have hid := (List.getElem?_eq_some_iff.mp running).1
    refine Ends.of_poll running (Ends.of_await proceeds hid found fun pending => ?_)
    rw [left] at pending
    cases pending
  | delay length rest ih | sleeping wake rest ih =>
    rw [Job.poll] at left
    split at left
    · exact ih running found left
    · exact hsleep ih running found left
  | request url rest ih =>
    rw [Job.poll] at left
    simp only at left
    split at left
    · exact ih _ running found left
    · exact hsleep (ih _) running found left
  | record metric rest ih => exact ih running found left

end Waiting

/-- Whatever a caller has come to with a poll, it can come to its end from there on. -/
theorem ends_arrived (caller : Caller ε α ρ) (orderly : caller.Orderly)
    (pipeline : Pipeline ε α ρ) (caches : Caches ε α) (hid : id < pipeline.callers.length) :
    (pipeline.arrived id (caller.poll pipeline.clock pipeline.documents caches)).Ends id := by
  induction caller generalizing pipeline caches with
  | done result => exact ends_of_finished (finished_arrived hid rfl)
  | record metric next ih => exact ih orderly pipeline caches hid
  | lookup name key window job next ih =>
    obtain ⟨_, horderly⟩ := orderly
    obtain ⟨computation, hfound⟩ :=
      (caches.named name).exists_computation_lookup pipeline.clock key window job
    have hproceeds (place : Nat) : Proceeds id place next :=
      fun result later caches hid => ih place result (horderly place result) later caches hid
    rw [Caller.poll_lookup]
    refine Ends.of_await (hproceeds _) hid
      (by rw [Caches.named_put, if_pos rfl]; exact hfound) fun _ _ _ hdocuments hrunning hthere
        hjob => ?_
    rw [← hdocuments] at hjob
    exact ends_of_awaiting (hproceeds _) computation.job hrunning hthere hjob
  | awaiting => exact orderly.elim

/-- A caller that is started and waits for nothing but what it has looked up can come to its end. -/
theorem ends_started (caller : Caller ε α ρ) (orderly : caller.Orderly)
    (pipeline : Pipeline ε α ρ) :
    (pipeline.step (.start caller)).1.Ends pipeline.callers.length := by
  have running : (pipeline.step (.start caller)).1.callers[pipeline.callers.length]? =
      some (.running caller) := by
    simp [step]
  refine Ends.of_poll running (ends_arrived caller orderly _ _ ?_)
  simp [step]

end Pipeline

end RelyingParty
