import RelyingParty.Proofs.Run.Handover

/-!
# Abandoned computations

A computation for which nobody waits any more keeps its entry and stays as it is, with the moment
until which it waits, until somebody looks its key up again or takes the entry away. A lookup that
finds it young enough waits for it in the place of those who were dropped.
-/

namespace RelyingParty

variable {ε α ρ : Type}

/-- This concerns the entry of a key: the key is looked up, or the entry is taken away from
outside. -/
def Happening.Concerns (name key : String) : Happening → Prop
  | .observed _ (.lookedUp lookup) => lookup.cache = name ∧ lookup.key = key
  | .observed _ _ => False
  | .invalidated cache lost => cache = name ∧ lost = key
  | .cleared cache => cache = name

/-- A caller does not wait for a computation, and comes to wait for others only by lookups. -/
def Caller.Detached (name : String) (id : Nat) : Caller ε α ρ → Prop
  | .awaiting cache _ place next => ¬ (cache = name ∧ place = id) ∧
    ∀ id result, (next id result).Orderly
  | caller => caller.Orderly

theorem Caller.Orderly.detached {caller : Caller ε α ρ} (h : caller.Orderly) (name : String)
    (id : Nat) : caller.Detached name id := by
  cases caller with
  | awaiting => exact h.elim
  | _ => exact h

/-- Waiting for a computation leaves the others alone, with their entries. -/
theorem Caches.await_of_other {caches : Caches ε α} {name key cache other : String}
    {id waited : Nat} {computation : Computation ε α}
    (held : (caches.named name).entries.find? key = some id)
    (there : (caches.named name).computations[id]? = some computation)
    (different : ¬ (cache = name ∧ waited = id)) (now : Nat) (documents : Documents) :
    ((caches.await now documents cache other waited).caches.named name).entries.find? key =
        some id ∧
      ((caches.await now documents cache other waited).caches.named name).computations[id]? =
        some computation := by
  rw [named_await]
  by_cases hcache : name = cache
  · subst hcache
    have hwaited : waited ≠ id := fun heq => different ⟨rfl, heq⟩
    rw [if_pos rfl, AgedCache.computations_told, AgedCache.getElem?_proceed, there]
    refine ⟨?_, by rw [Option.map_some, if_neg hwaited]⟩
    cases ((caches.named name).poll now documents waited).result with
    | none => exact held
    | some result =>
      cases result with
      | ok value => exact held
      | error fault =>
        simp only [AgedCache.told, AgedCache.evict]
        split
        · next hheld =>
          have hother : key ≠ other := by
            rintro rfl
            exact hwaited (Option.some.inj (hheld.symm.trans held))
          have hkept := Keyed.find?_erase (caches.named name).entries other key
          rw [if_neg hother] at hkept
          exact hkept.trans held
        · exact held
  · rw [if_neg hcache]
    exact ⟨held, there⟩

namespace Pipeline

/-- The entry of a key belongs to a computation, and nobody waits for it. -/
structure Abandoned (pipeline : Pipeline ε α ρ) (name key : String) (id : Nat)
    (computation : Computation ε α) : Prop where
  /-- It has the entry of the key. -/
  held : (pipeline.caches.named name).entries.find? key = some id
  /-- It is there. -/
  there : (pipeline.caches.named name).computations[id]? = some computation
  /-- No caller waits for it. -/
  alone : ∀ caller, ¬ pipeline.WaitsFor caller name id

end Pipeline

namespace Chronicle

/-- In a run a computation is abandoned: the caches are sound, and no caller waits for it. -/
structure Abandons (chronicle : Chronicle ε α ρ) (name key : String) (id : Nat)
    (computation : Computation ε α) : Prop where
  /-- All caches are sound. -/
  sound : chronicle.pipeline.caches.Sound
  /-- The computation has the entry of the key. -/
  held : (chronicle.pipeline.caches.named name).entries.find? key = some id
  /-- It is there. -/
  there : (chronicle.pipeline.caches.named name).computations[id]? = some computation
  /-- No caller waits for it. -/
  callers : ∀ (place : Nat) (caller : Caller ε α ρ),
    chronicle.pipeline.callers[place]? = some (.running caller) → caller.Detached name id

variable {chronicle before after : Chronicle ε α ρ} {name key : String} {id : Nat}
  {computation : Computation ε α}

/-- A step of a caller leaves an abandoned computation alone, unless the key is looked up. -/
theorem Abandons.step (h : chronicle.Abandons name key id computation) {place : Nat}
    {caller : Caller ε α ρ} {polled : Caller.Polled ε α ρ}
    (running : chronicle.pipeline.callers[place]? = some (.running caller))
    (step : Caller.Step chronicle.pipeline.clock chronicle.pipeline.documents
      chronicle.pipeline.caches caller polled)
    (untouched : ∀ observation ∈ polled.seen,
      ¬ (Happening.observed place observation).Concerns name key) :
    (polled.caches.named name).entries.find? key = some id ∧
      (polled.caches.named name).computations[id]? = some computation ∧
      polled.caller.Detached name id := by
  have hdetached := h.callers place caller running
  cases step with
  | record metric next =>
    have hnext : next.Orderly := hdetached
    exact ⟨h.held, h.there, hnext.detached name id⟩
  | lookup cache other window job next =>
    have hnext : ∀ id result, (next id result).Orderly := hdetached.2
    have huntouched : ¬ (cache = name ∧ other = key) := untouched _ List.mem_cons_self
    simp only [Caches.named_put, Caller.Detached]
    by_cases hcache : name = cache
    · subst hcache
      have hother : key ≠ other := fun heq => huntouched ⟨rfl, heq.symm⟩
      rw [if_pos rfl, AgedCache.find?_entries_lookup, AgedCache.computations_lookup,
        List.getElem?_append_left (List.getElem?_eq_some_iff.mp h.there).1]
      refine ⟨?_, h.there, ?_, hnext⟩
      · rw [if_neg fun heq => hother heq.1]
        exact h.held
      · rintro ⟨_, heq⟩
        -- the computation that is found was started for the other key
        obtain ⟨owner, howner, hkey⟩ :=
          (((h.sound name).lookup chronicle.pipeline.clock other window job).owner other _
            (AgedCache.find?_entries_lookup_self ..))
        obtain ⟨same, hsame, hsameKey⟩ := (h.sound name).owner key id h.held
        rw [heq, AgedCache.computations_lookup,
          List.getElem?_append_left (List.getElem?_eq_some_iff.mp h.there).1, hsame] at howner
        obtain rfl := Option.some.inj howner
        exact hother (hsameKey.symm.trans hkey)
    · rw [if_neg hcache]
      exact ⟨h.held, h.there, fun heq => hcache heq.1.symm, hnext⟩
  | resume cache other waited next ended =>
    obtain ⟨hdifferent, hnext⟩ := hdetached
    obtain ⟨hheld, hthere⟩ := Caches.await_of_other h.held h.there hdifferent
      chronicle.pipeline.clock chronicle.pipeline.documents
    exact ⟨hheld, hthere, (hnext _ _).detached name id⟩
  | wait cache other waited next waiting =>
    obtain ⟨hdifferent, hnext⟩ := hdetached
    obtain ⟨hheld, hthere⟩ := Caches.await_of_other h.held h.there hdifferent
      chronicle.pipeline.clock chronicle.pipeline.documents
    exact ⟨hheld, hthere, hdifferent, hnext⟩

/-- An event other than a poll takes an entry away only if it concerns it. -/
theorem Abandons.held_extend_quiet (h : chronicle.Abandons name key id computation)
    (event : Event ε α ρ) (quiet : ∀ id, event ≠ .poll id)
    (untouched : ∀ record ∈ chronicle.pipeline.history [event],
      ¬ record.happening.Concerns name key) :
    ((chronicle.extend [event]).pipeline.caches.named name).entries.find? key = some id := by
  cases event with
  | poll id => exact absurd rfl (quiet id)
  | start | pass | publish | withdraw => exact h.held
  | drop place =>
    obtain ⟨callers, hdrop⟩ := chronicle.pipeline.dropCaller_eq place
    simp only [extend, Pipeline.run, Pipeline.step, hdrop]
    exact h.held
  | invalidate cache lost =>
    have huntouched : ¬ (cache = name ∧ lost = key) := untouched _ List.mem_cons_self
    simp only [extend, Pipeline.run, Pipeline.step, Pipeline.changeCache, Caches.named_put]
    split
    · next hcache =>
      subst hcache
      have hlost : key ≠ lost := fun heq => huntouched ⟨rfl, heq.symm⟩
      rw [AgedCache.invalidate, Keyed.find?_erase, if_neg hlost]
      exact h.held
    · exact h.held
  | clear cache =>
    have huntouched : ¬ cache = name := untouched _ List.mem_cons_self
    simp only [extend, Pipeline.run, Pipeline.step, Pipeline.changeCache, Caches.named_put]
    rw [if_neg (Ne.symm huntouched)]
    exact h.held

/-- A move leaves an abandoned computation alone, unless it concerns the entry. -/
theorem Abandons.move (h : before.Abandons name key id computation)
    (move : Move Event.Orderly before after) {added : History}
    (grows : after.history = before.history ++ added)
    (untouched : ∀ record ∈ added, ¬ record.happening.Concerns name key) :
    after.Abandons name key id computation := by
  have hsound : after.pipeline.caches.Sound := by
    obtain ⟨_, hchange, _⟩ := move.change
    exact hchange.sound h.sound
  cases move with
  | event event permitted quiet =>
    obtain rfl := List.append_cancel_left grows
    refine ⟨hsound, h.held_extend_quiet event quiet untouched, ?_, ?_⟩
    · rw [before.computations_extend_quiet event quiet]
      exact h.there
    · obtain ⟨callers, hlength, hold, hcallers⟩ := before.callers_extend_quiet event quiet
      intro place caller hrunning
      rw [hcallers] at hrunning
      rcases Nat.lt_or_ge place callers.length with hplace | hplace
      · rw [List.getElem?_append_left hplace] at hrunning
        rcases hold place _ hrunning with hdropped | hsame
        · cases hdropped
        · exact h.callers place caller hsame
      · rw [List.getElem?_append_right hplace, List.getElem?_map,
          Option.map_eq_some_iff] at hrunning
        obtain ⟨program, hprogram, heq⟩ := hrunning
        obtain rfl := Slot.running.inj heq
        have hstarted := List.mem_of_getElem? hprogram
        cases event with
        | start other =>
          obtain rfl := List.mem_singleton.mp hstarted
          exact (permitted program rfl).detached name id
        | poll | drop | pass | publish | withdraw | invalidate | clear => cases hstarted
  | @step place caller polled running step =>
    obtain rfl := List.append_cancel_left grows
    obtain ⟨hheld, hthere, hdetached⟩ := h.step running step fun observation hobservation =>
      untouched _ (List.mem_map.mpr ⟨observation, hobservation, rfl⟩)
    refine ⟨hsound, hheld, hthere, fun other waiting hwaiting => ?_⟩
    simp only [advance, List.getElem?_set] at hwaiting
    split at hwaiting
    · split at hwaiting
      · obtain rfl := Slot.running.inj (Option.some.inj hwaiting)
        exact hdetached
      · cases hwaiting
    · exact h.callers other waiting hwaiting
  | @finish place result running =>
    refine ⟨hsound, h.held, h.there, ?_⟩
    intro other waiting hwaiting
    simp only [finish, List.getElem?_set] at hwaiting
    split at hwaiting
    · split at hwaiting <;> cases hwaiting
    · exact h.callers other waiting hwaiting

/-- A run leaves an abandoned computation alone, unless something concerns the entry. -/
theorem Abandons.moves (h : before.Abandons name key id computation)
    (moves : Moves Event.Orderly before after) :
    ∃ added, after.history = before.history ++ added ∧
      ((∀ record ∈ added, ¬ record.happening.Concerns name key) →
        after.Abandons name key id computation) := by
  induction moves with
  | refl => exact ⟨[], (List.append_nil _).symm, fun _ => h⟩
  | tail _ move ih =>
    obtain ⟨added, hadded, habandons⟩ := ih
    obtain ⟨happenings, _, hlast, _⟩ := move.change
    refine ⟨added ++ happenings.map _, by rw [hlast, hadded, List.append_assoc],
      fun untouched => ?_⟩
    have hbefore := habandons fun record hrecord =>
      untouched record (List.mem_append_left _ hrecord)
    exact hbefore.move move hlast fun record hrecord =>
      untouched record (List.mem_append_right _ hrecord)

/-- In a run of orderly callers a computation that has the entry of a key and for which nobody waits
is abandoned. -/
theorem abandons_extend (documents : Documents) {events : List (Event ε α ρ)}
    (orderly : ∀ event ∈ events, event.Orderly)
    (h : ((opened documents).extend events).pipeline.Abandoned name key id computation) :
    ((opened documents).extend events).Abandons name key id computation := by
  refine ⟨sound_extend documents events, h.held, h.there, fun place caller running => ?_⟩
  have hwaits := (attended_extend documents orderly).waits (booked_extend documents events) running
  cases caller with
  | awaiting cache other waited next =>
    refine ⟨?_, hwaits.2⟩
    rintro ⟨rfl, rfl⟩
    exact h.alone place ⟨other, next, running⟩
  | done | record | lookup => exact hwaits

/-- No caller waits for an abandoned computation. -/
theorem Abandons.abandoned (h : chronicle.Abandons name key id computation) :
    chronicle.pipeline.Abandoned name key id computation := by
  refine ⟨h.held, h.there, ?_⟩
  rintro caller ⟨other, next, running⟩
  exact (h.callers caller _ running).1 ⟨rfl, rfl⟩

end Chronicle

namespace Pipeline

variable {name key : String} {id : Nat} {computation : Computation ε α}

/-- A caller that looks a key up finds a computation and takes it further from where it was. -/
structure Resumes (pipeline : Pipeline ε α ρ) (caller : Nat) (name key : String)
    (window : Duration) (id : Nat) (computation : Computation ε α)
    (next : Nat → Except ε α → ρ) : Prop where
  /-- The lookup finds the computation. -/
  finds : pipeline.stamp (.observed caller (.lookedUp ⟨name, key, window, id, false⟩)) ∈
    pipeline.records (.poll caller)
  /-- Nothing is started. -/
  starts : ∀ cache, History.starts (pipeline.records (.poll caller)) cache = []
  /-- The computation goes on as it would have at this moment. -/
  goesOn : ((pipeline.pollCaller caller).1.caches.named name).computations[id]? =
    some { computation with job := (computation.job.poll pipeline.clock pipeline.documents).1 }
  /-- If it waits until a later moment, the caller waits until the same moment. -/
  waits : ∀ wake, computation.job.wake? = some wake → pipeline.clock < wake →
    (pipeline.pollCaller caller).1.WaitsFor caller name id ∧
      (pipeline.pollCaller caller).1.wake? caller = some wake
  /-- If it comes to a result, the caller is done with it. -/
  result : ∀ result, (computation.job.poll pipeline.clock pipeline.documents).1 = .done result →
    (pipeline.pollCaller caller).1.callers[caller]? = some (.finished (next id result))

/-- Waiting for a computation looks nothing up. -/
theorem start?_await {caches : Caches ε α} {now : Nat} {documents : Documents} {name key : String}
    {id : Nat} {observation : Observation}
    (h : observation ∈ (caches.await now documents name key id).seen) (pipeline : Pipeline ε α ρ)
    (caller : Nat) (cache : String) :
    (pipeline.stamp (.observed caller observation)).start? cache = none := by
  obtain ⟨lost, hseen, hlost⟩ := caches.seen_await now documents name key id
  rw [hseen] at h
  rcases List.mem_append.mp h with heffect | hevicted
  · obtain ⟨effect, _, rfl⟩ := List.mem_map.mp heffect
    cases effect <;> rfl
  · rw [(hlost observation hevicted).1]
    rfl

/-- What a computation comes to when it is waited for. -/
theorem result_await_eq {caches : Caches ε α}
    (there : (caches.named name).computations[id]? = some computation) (now : Nat)
    (documents : Documents) (key : String) :
    (caches.await now documents name key id).result =
      (computation.job.poll now documents).1.result? := by
  rw [Caches.result_await, AgedCache.result_poll_eq, AgedCache.due, there]
  rfl

/-- Who finds a computation waits for it. -/
theorem poll_get_of_fresh {caches : Caches ε α} {now : Nat} {window : Duration}
    (fresh : (caches.named name).fresh? now key window = some id)
    (there : (caches.named name).computations[id]? = some computation) (documents : Documents)
    (job : Job (Except ε α)) (next : Nat → Except ε α → ρ) :
    (Caller.get name key window job next).poll now documents caches =
      ⟨(caches.await now documents name key id).caches,
        match (caches.await now documents name key id).result with
        | some result => .done (next id result)
        | none => .awaiting name key id fun id result => .done (next id result),
        .lookedUp ⟨name, key, window, id, false⟩ ::
          (caches.await now documents name key id).seen⟩ := by
  rw [Caches.poll_lookup_of_fresh fresh there, Caller.poll_awaiting_done]
  rfl

/-- A lookup that finds an abandoned computation young enough resumes it. -/
theorem Abandoned.resumes {pipeline : Pipeline ε α ρ}
    (h : pipeline.Abandoned name key id computation) {caller : Nat} {window : Duration}
    {job : Job (Except ε α)} {next : Nat → Except ε α → ρ}
    (running : pipeline.callers[caller]? = some (.running (.get name key window job next)))
    (young : pipeline.clock ≤ computation.since + window.total) :
    pipeline.Resumes caller name key window id computation next := by
  have hcaller := (List.getElem?_eq_some_iff.mp running).1
  have hfresh := ((pipeline.caches.named name).fresh?_eq_some_iff pipeline.clock key window id).mpr
    ⟨h.held, computation, h.there, young⟩
  have hpoll := poll_get_of_fresh hfresh h.there pipeline.documents job next
  obtain ⟨awaited, hawaited⟩ : ∃ awaited, awaited =
      pipeline.caches.await pipeline.clock pipeline.documents name key id := ⟨_, rfl⟩
  rw [← hawaited] at hpoll
  have hresult : awaited.result =
      (computation.job.poll pipeline.clock pipeline.documents).1.result? := by
    rw [hawaited]
    exact result_await_eq h.there _ _ _
  have hthere : (awaited.caches.named name).computations[id]? = some
      { computation with job := (computation.job.poll pipeline.clock pipeline.documents).1 } := by
    rw [hawaited, Caches.named_await, if_pos rfl, AgedCache.computations_told,
      AgedCache.getElem?_proceed, h.there, Option.map_some, if_pos rfl]
  have hpolled := pollCaller_of_running running
  rw [hpoll] at hpolled
  have hrecords : pipeline.records (.poll caller) =
      pipeline.stamp (.observed caller (.lookedUp ⟨name, key, window, id, false⟩)) ::
        awaited.seen.map fun observation => pipeline.stamp (.observed caller observation) := by
    simp only [records, hpolled, List.map_cons]
  refine ⟨?_, fun cache => ?_, ?_, fun wake hwake hlater => ?_, fun result hdone => ?_⟩
  · rw [hrecords]
    exact List.mem_cons_self
  · rw [hrecords]
    refine List.filterMap_eq_nil_iff.mpr fun record hrecord => ?_
    rcases List.mem_cons.mp hrecord with rfl | hlater
    · simp [stamp, Record.start?]
    · obtain ⟨observation, hobservation, rfl⟩ := List.mem_map.mp hlater
      rw [hawaited] at hobservation
      exact start?_await hobservation pipeline caller cache
  · rw [hpolled, arrived]
    exact hthere
  · have hrest : computation.job.Rests pipeline.clock := Or.inr ⟨wake, hwake, hlater⟩
    have hrests := hrest.poll pipeline.documents
    have hpending : computation.job.result? = none := by
      cases hjob : computation.job <;> simp [hjob, Job.wake?, Job.result?] at hwake ⊢
    rw [hrests] at hresult hthere
    rw [hresult, hpending] at hpolled
    rw [hpolled]
    refine ⟨⟨key, _, running_arrived hcaller rfl⟩, ?_⟩
    rw [wake?, running_arrived hcaller rfl]
    simp only [arrived, Caller.wake?, hthere, Option.bind_some, hwake]
  · rw [hresult, hdone] at hpolled
    rw [hpolled]
    exact finished_arrived hcaller rfl

/-- What becomes of a computation when a caller is dropped that waits for it. -/
structure Handover (pipeline : Pipeline ε α ρ) : Prop where
  /-- If it succeeds in the end, and can do nothing at the moment whenever time passes or documents
  change, the run agrees at any time with the one in which the caller is not dropped, but for that
  caller, and the same happens to the caches. -/
  others : ∀ (caller : Nat) (name key : String) (id : Nat) (next : Nat → Except ε α → ρ) (value : α)
    (events : List (Event ε α ρ)),
    pipeline.callers[caller]? =
      some (.running (.awaiting name key id fun id result => .done (next id result))) →
    let dropped := (pipeline.step (.drop caller)).1
    dropped.Rested name id events →
    (dropped.run events).1.CameTo name id (.ok value) → ∀ before after, events = before ++ after →
      AgreesBut caller (dropped.run before).1 (pipeline.run before).1 ∧
        (pipeline.history before).ofCaches = (dropped.history before).ofCaches
  /-- If others wait for it at any time until it comes to a result, and nobody waits longer than
  necessary, it can do nothing at the moment whenever time passes or documents change. -/
  watched : ∀ (caller : Nat) (name : String) (id : Nat) (events : List (Event ε α ρ)),
    let dropped := (pipeline.step (.drop caller)).1
    dropped.Watched name id events → dropped.Prompt events → dropped.Rested name id events
  /-- If nobody has waited longer than necessary up to then, nobody does in any schedule. -/
  scheduled : ∀ (caller : Nat) (first : List Nat) (target : Nat), pipeline.Settled →
    let dropped := (pipeline.step (.drop caller)).1
    ∃ events, dropped.advance first target = dropped.run events ∧ dropped.Prompt events ∧
      (dropped.run events).1.Settled
  /-- If nobody waits for it any more, it keeps its entry and stays as it is until something
  concerns the entry, and whoever looks its key up then and finds it young enough resumes it. -/
  nobody : ∀ (name key : String) (id : Nat) (computation : Computation ε α)
    (events : List (Event ε α ρ)), pipeline.Abandoned name key id computation →
    (∀ event ∈ events, event.Orderly) →
    (∀ record ∈ pipeline.history events, ¬ record.happening.Concerns name key) →
    let last := (pipeline.run events).1
    last.Abandoned name key id computation ∧
      ∀ (caller : Nat) (window : Duration) (job : Job (Except ε α)) (next : Nat → Except ε α → ρ),
        last.callers[caller]? = some (.running (.get name key window job next)) →
        last.clock ≤ computation.since + window.total →
        last.Resumes caller name key window id computation next

/-- Whatever has happened in a run of orderly callers: when a caller is dropped, the computation for
which it waits is handed over to the others, or to whoever looks its key up next. -/
theorem handover (documents : Documents) {events : List (Event ε α ρ)}
    (orderly : ∀ event ∈ events, event.Orderly) :
    Handover ((opened documents : Pipeline ε α ρ).run events).1 := by
  have hattended := Chronicle.attended_extend documents orderly
  have hbooked := Chronicle.booked_extend documents events
  constructor
  · intro caller name key id next value rest waiting dropped rested succeeds
    rintro before after rfl
    obtain ⟨⟨_, hfound, _⟩, _⟩ := hattended.waits hbooked waiting
    have hbeside := beside_drop waiting (List.getElem?_eq_some_iff.mp hfound).1
    obtain ⟨hlast, hhistory⟩ := hbeside.run rested succeeds
    exact ⟨hlast.agreesBut, hhistory⟩
  · intro caller name id rest dropped watched prompt
    exact watched.rested prompt
  · intro caller first target settled
    exact exists_prompt_advance first target (settled.drop caller)
  · intro name key id computation rest abandoned permitted untouched
    have habandons := Chronicle.abandons_extend documents orderly abandoned
    obtain ⟨added, hadded, hkept⟩ := habandons.moves (Chronicle.moves_extend _ rest permitted)
    obtain rfl := List.append_cancel_left hadded
    have hlast := (hkept untouched).abandoned
    exact ⟨hlast, fun caller window job next running young => hlast.resumes running young⟩

/-- Two callers that look a key up at the same moment wait for one computation. -/
theorem run_pair (name key : String) (window : Duration) {length : Nat} (waits : 0 < length)
    (job : Job (Except ε α)) (next : Nat → Except ε α → ρ) :
    let caller := Caller.get name key window (.delay length job) next
    let waiting : Caller ε α ρ :=
      .awaiting name key 0 fun id result => .done (next id result)
    ((opened []).run [.start caller, .start caller, .poll 0, .poll 1]).1 =
      ⟨0, [], [(name, ⟨[⟨key, 0, .sleeping length job⟩], [(key, 0)]⟩)],
        [.running waiting, .running waiting]⟩ := by
  simp [run, step, opened, pollCaller, Caller.poll, Caches.named, AgedCache.lookup,
    AgedCache.fresh?, Caches.await, AgedCache.poll, AgedCache.install, Keyed.put, Job.poll,
    AgedCache.empty, Keyed.find?, Caller.result?, Job.result?, AgedCache.update,
    Nat.ne_of_gt waits]

/-- When both are dropped, the computation stays as it is. -/
theorem run_pair_dropped (name key : String) (window : Duration) {length : Nat}
    (waits : 0 < length) (job : Job (Except ε α)) (next : Nat → Except ε α → ρ) :
    let caller := Caller.get name key window (.delay length job) next
    ((opened []).run
      [.start caller, .start caller, .poll 0, .poll 1, .drop 0, .drop 1]).1 =
      ⟨0, [], [(name, ⟨[⟨key, 0, .sleeping length job⟩], [(key, 0)]⟩)], [.dropped, .dropped]⟩ := by
  intro caller
  have hdrops : ((opened []).run
      [.start caller, .start caller, .poll 0, .poll 1, .drop 0, .drop 1]).1 =
      ((((opened []).run [.start caller, .start caller, .poll 0, .poll 1]).1.step
        (.drop 0)).1.step (.drop 1)).1 := rfl
  rw [hdrops, run_pair name key window waits job next]
  rfl

theorem abandoned_pair (name key : String) (window : Duration) {length : Nat}
    (waits : 0 < length) (job : Job (Except ε α)) (next : Nat → Except ε α → ρ) :
    let caller := Caller.get name key window (.delay length job) next
    ((opened []).run
      [.start caller, .start caller, .poll 0, .poll 1, .drop 0, .drop 1]).1.Abandoned name key 0
        ⟨key, 0, .sleeping length job⟩ := by
  intro caller
  rw [run_pair_dropped name key window waits job next]
  refine ⟨?_, ?_, ?_⟩
  · simp [Caches.named, Keyed.find?]
  · simp [Caches.named, Keyed.find?]
  · apply not_exists.mp
    simp [exists_waitsFor_iff, Slot.awaited?]

/-- Of two callers that wait for the same the first is dropped, and the second gets it as if nothing
had happened; when both are dropped, a third resumes what they waited for. -/
theorem handover_delayed :
    let caller : Caller String Nat Bool :=
      .get "cache" "key" ⟨5, by decide⟩ (.delay 10 (.done (.ok 7))) fun _ found => found.isOk
    let shared : List (Event String Nat Bool) := [.start caller, .start caller, .poll 0, .poll 1]
    let both := ((opened [] : Pipeline String Nat Bool).run shared).1
    let rest : List (Event String Nat Bool) := [.pass 10, .poll 0, .poll 1]
    let lost : List (Event String Nat Bool) :=
      [.start caller, .start caller, .poll 0, .poll 1, .drop 0, .drop 1]
    let neither := ((opened [] : Pipeline String Nat Bool).run lost).1
    let third := (neither.run [.pass 4, .start caller]).1
    AgreesBut 0 ((both.step (.drop 0)).1.run rest).1 (both.run rest).1 ∧
      third.Resumes 2 "cache" "key" ⟨5, by decide⟩ 0 ⟨"key", 0, .sleeping 10 (.done (.ok 7))⟩
        fun _ found => found.isOk := by
  intro caller shared both rest lost neither third
  let waits : Caller String Nat Bool :=
    .awaiting "cache" "key" 0 fun id result => .done ((fun _ found => found.isOk) id result)
  have hboth : both = ⟨0, [],
      [("cache", ⟨[⟨"key", 0, .sleeping 10 (.done (.ok 7))⟩], [("key", 0)]⟩)],
      [.running waits, .running waits]⟩ := run_pair _ _ _ (by decide) _ _
  constructor
  · have orderly : ∀ event ∈ shared, event.Orderly := by
      simp [shared, caller, Event.Orderly, Caller.Orderly, Caller.Asks]
    have waiting : both.callers[0]? = some (.running waits) := by
      rw [hboth]
      rfl
    have hdropped : (both.step (.drop 0)).1 =
        { both with callers := [.dropped, .running waits] } := by
      rw [hboth]
      rfl
    have watched : (both.step (.drop 0)).1.Watched "cache" 0 rest := by decide +kernel
    have prompt : (both.step (.drop 0)).1.Prompt rest := by
      refine ⟨fun _ place running hrunning => ?_, fun outer => ?_, fun outer => ?_, trivial⟩
      · have hmember := List.mem_of_getElem? hrunning
        rw [hdropped] at hmember
        obtain rfl : running = waits := by simpa using hmember
        intro computation hfound
        rw [hdropped, hboth] at hfound
        obtain rfl := Option.some.inj hfound
        exact Or.inr ⟨10, rfl, by decide +kernel⟩
      · cases outer
      · cases outer
    have succeeds : ((both.step (.drop 0)).1.run rest).1.CameTo "cache" 0 (.ok 7) :=
      cameTo_of_value? (by decide +kernel)
    have hhandover := handover [] orderly
    have rested := hhandover.watched 0 "cache" 0 rest watched prompt
    exact (hhandover.others 0 "cache" "key" 0 _ 7 rest waiting rested succeeds rest []
      (List.append_nil rest).symm).1
  · have orderly : ∀ event ∈ lost, event.Orderly := by
      simp [lost, caller, Event.Orderly, Caller.Orderly, Caller.Asks]
    have abandoned : neither.Abandoned "cache" "key" 0
        ⟨"key", 0, .sleeping 10 (.done (.ok 7))⟩ := abandoned_pair _ _ _ (by decide) _ _
    have later : ∀ event ∈ ([.pass 4, .start caller] : List (Event String Nat Bool)),
        event.Orderly := by
      simp [caller, Event.Orderly, Caller.Orderly, Caller.Asks]
    have running : third.callers[2]? = some (.running caller) := by
      have hcallers : third.callers = neither.callers ++ [.running caller] := rfl
      have hneither : neither.callers = [.dropped, .dropped] := by
        apply congrArg callers (run_pair_dropped _ _ _ (by decide) _ _)
      rw [hcallers, hneither]
      rfl
    have untouched : ∀ record ∈ neither.history [.pass 4, .start caller],
        ¬ record.happening.Concerns "cache" "key" := fun record hrecord => by cases hrecord
    exact ((handover [] orderly).nobody "cache" "key" 0 _ [.pass 4, .start caller] abandoned later
      untouched).2 2 ⟨5, by decide⟩ _ _ running (by decide +kernel)

/-- Of two callers that wait for the same the first is dropped, and the second is polled too late
after time has passed: it gets the same later than it would have. And when both are dropped, what
they waited for loses its entry to a lookup for which it is too old, so that another lookup for
which it is not does not resume it. -/
theorem handover_late :
    let slow : Caller String Nat Bool :=
      .get "cache" "key" ⟨50, by decide⟩ (.delay 10 (.delay 15 (.done (.ok 7))))
        fun _ found => found.isOk
    let both := ((opened [] : Pipeline String Nat Bool).run
      [.start slow, .start slow, .poll 0, .poll 1]).1
    let dropped := (both.step (.drop 0)).1
    let early : List (Event String Nat Bool) :=
      [.pass 10, .poll 0, .pass 5, .poll 1, .pass 10, .poll 0, .poll 1]
    let late : List (Event String Nat Bool) := [.pass 5, .poll 1]
    let neither := ((opened [] : Pipeline String Nat Bool).run
      [.start slow, .start slow, .poll 0, .poll 1, .drop 0, .drop 1]).1
    let hasty : Caller String Nat Bool :=
      .get "cache" "key" ⟨1, by decide⟩ (.done (.ok 8)) fun _ found => found.isOk
    let fourth := (neither.run [.pass 2, .start hasty, .poll 2, .start slow]).1
    let computation : Computation String Nat :=
      ⟨"key", 0, .sleeping 10 (.delay 15 (.done (.ok 7)))⟩
    (both.WaitsFor 0 "cache" 0 ∧ dropped.Watched "cache" 0 (early ++ late) ∧
      (dropped.run (early ++ late)).1.CameTo "cache" 0 (.ok 7) ∧
      (both.run early).1.callers[1]? = some (.finished true) ∧
      (dropped.run early).1.WaitsFor 1 "cache" 0) ∧
    (neither.Abandoned "cache" "key" 0 computation ∧
      fourth.callers[3]? = some (.running slow) ∧ fourth.clock ≤ computation.since + 50 ∧
      ¬ fourth.Resumes 3 "cache" "key" ⟨50, by decide⟩ 0 computation fun _ found =>
        found.isOk) := by
  intro slow both dropped early late neither hasty fourth computation
  constructor
  · refine ⟨by decide +kernel, by decide +kernel, cameTo_of_value? (by decide +kernel), ?_,
      by decide +kernel⟩
    exact Slot.eq_finished (by decide +kernel)
  · have abandoned : neither.Abandoned "cache" "key" 0 computation :=
      abandoned_pair _ _ _ (by decide) _ _
    have running : fourth.callers[3]? = some (.running slow) := by
      have hcallers : fourth.callers =
          (neither.run [.pass 2, .start hasty, .poll 2]).1.callers ++ [.running slow] := rfl
      have hneither : neither = ⟨0, [], [("cache", ⟨[computation], [("key", 0)]⟩)],
          [.dropped, .dropped]⟩ := run_pair_dropped _ _ _ (by decide) _ _
      rw [hcallers, hneither]
      rfl
    refine ⟨abandoned, running, by decide +kernel, fun resumes => ?_⟩
    have waiting := (resumes.waits 10 rfl (by decide +kernel)).1
    exact absurd waiting (by decide +kernel)

end Pipeline

end RelyingParty
