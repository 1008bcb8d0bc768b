import RelyingParty.Proofs.Run.Attribution
import Mathlib.Data.List.Nodup

/-!
# Soundness of caches

Every entry of a cache belongs to a computation that was started for its key, no two entries to the
same, and between two events none to a computation that has failed: whoever is polled and sees a
computation fail takes the entry away before anybody else can look the key up.
-/

namespace RelyingParty

variable {ε α ρ : Type}

namespace AgedCache

variable {cache : AgedCache ε α}

/-- An entry is found by a lookup exactly when its computation is no older than the lookup
allows. -/
theorem fresh?_eq_some_iff (cache : AgedCache ε α) (now : Nat) (key : String) (window : Duration)
    (id : Nat) :
    cache.fresh? now key window = some id ↔ cache.entries.find? key = some id ∧
      ∃ computation, cache.computations[id]? = some computation ∧
        now ≤ computation.since + window.total := by
  simp only [fresh?, Option.bind_eq_bind, Option.bind_eq_some_iff, Option.ite_none_right_eq_some,
    Option.some.injEq, Nat.sub_le_iff_le_add, Nat.add_comm window.total]
  constructor
  · rintro ⟨found, hheld, computation, hfound, hyoung, rfl⟩
    exact ⟨hheld, computation, hfound, hyoung⟩
  · rintro ⟨hheld, computation, hfound, hyoung⟩
    exact ⟨id, hheld, computation, hfound, hyoung, rfl⟩

/-- The computation that a lookup finds has the entry of the key. -/
theorem find?_entries_lookup_self (cache : AgedCache ε α) (now : Nat) (key : String)
    (window : Duration) (job : Job (Except ε α)) :
    (cache.lookup now key window job).cache.entries.find? key =
      some (cache.lookup now key window job).id := by
  unfold lookup
  split
  · next id hfresh => exact ((fresh?_eq_some_iff cache now key window id).mp hfresh).1
  · simp [install, Keyed.find?_put]

/-- A computation that does not go on leaves the cache as it is. -/
theorem update_self {id : Nat} {computation : Computation ε α}
    (found : cache.computations[id]? = some computation) :
    cache.update id computation.job = cache := by
  obtain ⟨computations, entries⟩ := cache
  have hsame : computations.modify id (fun earlier => { earlier with job := computation.job }) =
      computations := by
    apply List.ext_getElem?
    intro place
    rw [List.getElem?_modify]
    split
    · next hplace =>
      rw [← hplace, found]
      rfl
    · exact Option.map_id'
  rw [update, hsame]

/-- Each entry belongs to a computation that was started for its key. -/
structure Sound (cache : AgedCache ε α) : Prop where
  /-- There is at most one entry for a key. -/
  keys : (Keyed.names cache.entries).Nodup
  /-- The computation of an entry was started for its key. -/
  owner : ∀ key id, cache.entries.find? key = some id →
    ∃ computation, cache.computations[id]? = some computation ∧ computation.key = key

theorem sound_empty : (empty : AgedCache ε α).Sound :=
  ⟨List.nodup_nil, fun _ _ h => by cases h⟩

/-- The entries of a sound cache have different numbers. -/
theorem Sound.nodup_ids (h : cache.Sound) : (cache.entries.map Prod.snd).Nodup := by
  refine List.Nodup.map_on ?_ (List.Nodup.of_map Prod.fst h.keys)
  rintro ⟨key, id⟩ hfirst ⟨other, place⟩ hlast (rfl : id = place)
  obtain ⟨computation, hfound, rfl⟩ :=
    h.owner key id ((Keyed.find?_eq_some_iff h.keys _ _).mpr hfirst)
  obtain ⟨same, hsame, rfl⟩ := h.owner other id ((Keyed.find?_eq_some_iff h.keys _ _).mpr hlast)
  rw [Option.some.inj (hfound.symm.trans hsame)]

theorem Sound.lookup (h : cache.Sound) (now : Nat) (key : String) (window : Duration)
    (job : Job (Except ε α)) : (cache.lookup now key window job).cache.Sound := by
  refine ⟨?_, fun other id hfound => ?_⟩
  · unfold AgedCache.lookup
    split
    · exact h.keys
    · exact Keyed.nodup_names_put h.keys key _
  · rw [computations_lookup]
    rw [find?_entries_lookup] at hfound
    split at hfound
    · next hnew =>
      obtain ⟨rfl, hnew⟩ := hnew
      have hid := id_lookup_of_isNew cache now other window job hnew
      rw [← Option.some.inj hfound, hid, hnew]
      exact ⟨⟨other, now, job⟩, by simp, rfl⟩
    · obtain ⟨computation, hcomputation, hkey⟩ := h.owner other id hfound
      have hlength := (List.getElem?_eq_some_iff.mp hcomputation).1
      exact ⟨computation, by rw [List.getElem?_append_left hlength, hcomputation], hkey⟩

theorem Sound.poll (h : cache.Sound) (now : Nat) (documents : Documents) (id : Nat) :
    (cache.poll now documents id).cache.Sound := by
  refine ⟨by rw [entries_poll]; exact h.keys, fun key place hfound => ?_⟩
  rw [entries_poll] at hfound
  obtain ⟨computation, hcomputation, hkey⟩ := h.owner key place hfound
  rw [getElem?_computations_poll, hcomputation]
  refine ⟨_, rfl, ?_⟩
  split <;> exact hkey

theorem Sound.invalidate (h : cache.Sound) (key : String) : (cache.invalidate key).Sound := by
  refine ⟨Keyed.nodup_names_erase h.keys key, fun other id hfound => ?_⟩
  rw [AgedCache.invalidate, Keyed.find?_erase] at hfound
  split at hfound
  · cases hfound
  · exact h.owner other id hfound

theorem Sound.clear (cache : AgedCache ε α) : cache.clear.Sound :=
  ⟨List.nodup_nil, fun _ _ h => by cases h⟩

/-- Every change of a cache leaves it sound. -/
theorem Change.sound {now : Nat} {documents : Documents} {name : String}
    {happenings : List Happening} {next : AgedCache ε α}
    (change : cache.Change now documents name happenings next) (h : cache.Sound) : next.Sound := by
  cases change with
  | lookup caller key window job => exact h.lookup now key window job
  | poll caller id => exact h.poll now documents id
  | evict caller key id failed held => exact (h.poll now documents id).invalidate key
  | invalidate key => exact h.invalidate key
  | clear => exact .clear cache

end AgedCache

namespace Caches

variable {caches : Caches ε α}

/-- All caches are sound. -/
def Sound (caches : Caches ε α) : Prop := ∀ name, (caches.named name).Sound

theorem Sound.put (h : caches.Sound) (name : String) {cache : AgedCache ε α}
    (hcache : cache.Sound) : Sound (Keyed.put name cache caches) := by
  intro other
  rw [named_put]
  split
  · exact hcache
  · exact h other

theorem Change.sound {now : Nat} {documents : Documents} {happenings : List Happening}
    {next : Caches ε α} (change : caches.Change now documents happenings next) (h : caches.Sound) :
    next.Sound := by
  cases change with
  | none | count => exact h
  | @change name _ cache hchange => exact h.put name (hchange.sound (h name))

/-- The computation `id` of a cache was started for a key. -/
def Belongs (caches : Caches ε α) (name key : String) (id : Nat) : Prop :=
  ∃ computation : Computation ε α,
    (caches.named name).computations[id]? = some computation ∧ computation.key = key

/-- The computation `id` of a cache has failed. -/
def Failed (caches : Caches ε α) (name : String) (id : Nat) (fault : ε) : Prop :=
  ∃ computation : Computation ε α,
    (caches.named name).computations[id]? = some computation ∧
      computation.job = .done (.error fault)

/-- No entry belongs to a computation that has failed, except perhaps to the computation `id` of the
cache `name`. -/
def IntactBut (caches : Caches ε α) (name : String) (id : Nat) : Prop :=
  ∀ other key place, (caches.named other).entries.find? key = some place →
    (other = name → place ≠ id) → ∀ fault, ¬ caches.Failed other place fault

/-- No entry belongs to a computation that has failed. -/
def Intact (caches : Caches ε α) : Prop :=
  ∀ name key id, (caches.named name).entries.find? key = some id →
    ∀ fault, ¬ caches.Failed name id fault

theorem Intact.but (h : caches.Intact) (name : String) (id : Nat) : caches.IntactBut name id :=
  fun other key place hfound _ => h other key place hfound

/-- After a lookup at most the computation found may have failed and have an entry. -/
theorem Intact.lookup (h : caches.Intact) (sound : caches.Sound) (now : Nat) (name key : String)
    (window : Duration) (job : Job (Except ε α)) :
    IntactBut (Keyed.put name ((caches.named name).lookup now key window job).cache caches) name
      ((caches.named name).lookup now key window job).id := by
  rintro other found place hfound hother fault ⟨computation, hcomputation, hfailed⟩
  rw [named_put] at hfound hcomputation
  by_cases hname : other = name
  · subst hname
    rw [if_pos rfl, AgedCache.find?_entries_lookup] at hfound
    rw [if_pos rfl, AgedCache.computations_lookup] at hcomputation
    split at hfound
    · exact hother rfl (Option.some.inj hfound).symm
    · obtain ⟨earlier, hearlier, _⟩ := (sound other).owner found place hfound
      have hlength := (List.getElem?_eq_some_iff.mp hearlier).1
      rw [List.getElem?_append_left hlength] at hcomputation
      exact h other found place hfound fault ⟨computation, hcomputation, hfailed⟩
  · rw [if_neg hname] at hfound hcomputation
    exact h other found place hfound fault ⟨computation, hcomputation, hfailed⟩

/-- The computation that a lookup finds was started for the key. -/
theorem Sound.belongs_lookup (h : caches.Sound) (now : Nat) (name key : String) (window : Duration)
    (job : Job (Except ε α)) :
    Belongs (Keyed.put name ((caches.named name).lookup now key window job).cache caches) name key
      ((caches.named name).lookup now key window job).id := by
  rw [Belongs, named_put, if_pos rfl]
  exact ((h name).lookup now key window job).owner key _ (AgedCache.find?_entries_lookup_self ..)

/-- An entry that is there after a computation has been waited for was there before, and is not that
of the computation if it has failed. -/
theorem find?_entries_await {now : Nat} {documents : Documents} {name key other found : String}
    {id place : Nat}
    (h : ((caches.await now documents name key id).caches.named other).entries.find? found =
      some place) :
    (caches.named other).entries.find? found = some place ∧
      ∀ fault, (caches.await now documents name key id).result = some (.error fault) →
        other = name → found = key → place ≠ id := by
  simp only [await] at h ⊢
  split at h
  · next fault hfault =>
    rw [named_put] at h
    by_cases hname : other = name
    · subst hname
      rw [if_pos rfl, AgedCache.evict, AgedCache.entries_poll] at h
      split at h
      · rw [Keyed.find?_erase, Option.ite_none_left_eq_some] at h
        obtain ⟨hkey, hfound⟩ := h
        exact ⟨hfound, fun _ _ _ hsame => absurd hsame hkey⟩
      · next hheld =>
        rw [AgedCache.entries_poll] at h
        refine ⟨h, ?_⟩
        rintro _ _ _ rfl rfl
        exact hheld h
    · rw [if_neg hname] at h
      exact ⟨h, fun _ _ hsame => absurd hsame hname⟩
  · next hresult =>
    rw [named_put] at h
    refine ⟨?_, fun fault hfault => absurd hfault (hresult fault)⟩
    split at h
    · next hname =>
      subst hname
      rwa [AgedCache.entries_poll] at h
    · exact h

/-- A cache in which there is a computation is there. -/
theorem put_named (caches : Caches ε α) {name : String} {id : Nat} {computation : Computation ε α}
    (found : (caches.named name).computations[id]? = some computation) :
    Keyed.put name (caches.named name) caches = caches := by
  apply Keyed.put_of_find?
  cases hfind : caches.find? name with
  | none => simp [named, hfind, AgedCache.empty] at found
  | some cache => simp [named, hfind]

/-- Waiting for a computation that is over changes nothing, unless it has failed and has its entry
yet. -/
theorem await_of_done {name key : String} {id : Nat} {computation : Computation ε α}
    {result : Except ε α} (found : (caches.named name).computations[id]? = some computation)
    (ended : computation.job = .done result)
    (lost : ∀ fault, result = .error fault → (caches.named name).entries.find? key ≠ some id)
    (now : Nat) (documents : Documents) :
    caches.await now documents name key id = ⟨caches, some result, []⟩ := by
  have hupdate : (caches.named name).update id (.done result) = caches.named name := by
    rw [← ended]
    exact AgedCache.update_self found
  have hpoll : (caches.named name).poll now documents id =
      ⟨caches.named name, some result, []⟩ := by
    simp only [AgedCache.poll, found, ended, Job.poll, Job.result?, hupdate]
  have hput := caches.put_named found
  simp only [await, hpoll, List.map_nil, List.nil_append]
  cases result with
  | ok value => rw [hput]
  | error fault => simp only [AgedCache.evict, if_neg (lost fault rfl), hput]

/-- Who finds a computation waits for it. -/
theorem poll_lookup_of_fresh {name key : String} {window : Duration} {id : Nat}
    {computation : Computation ε α} {now : Nat}
    (fresh : (caches.named name).fresh? now key window = some id)
    (there : (caches.named name).computations[id]? = some computation) (documents : Documents)
    (job : Job (Except ε α)) (next : Nat → Except ε α → Caller ε α ρ) :
    (Caller.lookup name key window job next).poll now documents caches =
      ((Caller.awaiting name key id next).poll now documents caches).after
        [.lookedUp ⟨name, key, window, id, false⟩] := by
  have hlookup : (caches.named name).lookup now key window job =
      ⟨caches.named name, id, false⟩ := by
    simp only [AgedCache.lookup, fresh]
  rw [Caller.poll_lookup, hlookup, caches.put_named there]

/-- When a computation has been waited for it has no entry any more if it has failed. -/
theorem IntactBut.await {name key : String} {id : Nat} (h : caches.IntactBut name id)
    (sound : caches.Sound) (belongs : caches.Belongs name key id) (now : Nat)
    (documents : Documents) : (caches.await now documents name key id).caches.Intact := by
  rintro other found place hfound fault ⟨computation, hcomputation, hfailed⟩
  obtain ⟨hbefore, hkept⟩ := find?_entries_await hfound
  rw [computations_await] at hcomputation
  by_cases hname : other = name
  · subst hname
    rw [if_pos rfl, AgedCache.getElem?_computations_poll, Option.map_eq_some_iff] at hcomputation
    obtain ⟨earlier, hearlier, rfl⟩ := hcomputation
    by_cases hplace : id = place
    · subst hplace
      -- the entry is that of the key for which the computation was started
      obtain ⟨owner, howner, rfl⟩ := (sound other).owner found id hbefore
      obtain ⟨started, hstarted, rfl⟩ := belongs
      obtain rfl := Option.some.inj (howner.symm.trans hstarted)
      obtain rfl := Option.some.inj (howner.symm.trans hearlier)
      rw [if_pos rfl] at hfailed
      have hresult : (caches.await now documents other owner.key id).result =
          some (.error fault) := by
        rw [result_await, AgedCache.poll, howner]
        exact congrArg Job.result? hfailed
      exact hkept fault hresult rfl rfl rfl
    · rw [if_neg hplace] at hfailed
      exact h other found place hbefore (fun _ => Ne.symm hplace) fault ⟨earlier, hearlier, hfailed⟩
  · rw [if_neg hname] at hcomputation
    exact h other found place hbefore (fun hsame => absurd hsame hname) fault
      ⟨computation, hcomputation, hfailed⟩

theorem Sound.await (h : caches.Sound) (now : Nat) (documents : Documents) (name key : String)
    (id : Nat) : (caches.await now documents name key id).caches.Sound :=
  (caches.change_await now documents name key id 0).sound h

end Caches

namespace Caller

/-- What a caller waits for, if it waits, was started for the key that it has looked up. -/
def Waits (caches : Caches ε α) : Caller ε α ρ → Prop
  | .awaiting name key id next => caches.Belongs name key id ∧ ∀ id result, (next id result).Orderly
  | caller => caller.Orderly

/-- What is orderly waits for nothing yet. -/
theorem Orderly.waits {caller : Caller ε α ρ} (h : caller.Orderly) (caches : Caches ε α) :
    caller.Waits caches := by
  cases caller with
  | awaiting => exact h.elim
  | _ => exact h

/-- Polling a caller leaves all caches sound, and no entry to a computation that has failed. -/
theorem intact_poll (now : Nat) (documents : Documents) (caller : Caller ε α ρ)
    {caches : Caches ε α} (sound : caches.Sound) (intact : caches.Intact)
    (waits : caller.Waits caches) : (caller.poll now documents caches).caches.Intact := by
  -- a lookup leaves what it has found for the wait that follows, so waiting is settled apart
  have hawait (name key : String) (id : Nat) (next : Nat → Except ε α → Caller ε α ρ)
      (ih : ∀ id result {caches : Caches ε α}, caches.Sound → caches.Intact →
        (next id result).Waits caches → ((next id result).poll now documents caches).caches.Intact)
      {caches : Caches ε α} (sound : caches.Sound) (intact : caches.IntactBut name id)
      (belongs : caches.Belongs name key id) (orderly : ∀ id result, (next id result).Orderly) :
      ((awaiting name key id next).poll now documents caches).caches.Intact := by
    have hsound := sound.await now documents name key id
    have hintact := intact.await sound belongs now documents
    simp only [poll]
    split
    · next result _ => exact ih id result hsound hintact ((orderly id result).waits _)
    · exact hintact
  induction caller generalizing caches with
  | done result => exact intact
  | record metric next ih =>
    have horderly : next.Orderly := waits
    exact ih sound intact (horderly.waits _)
  | lookup name key window job next ih =>
    have hsound := sound.put name ((sound name).lookup now key window job)
    rw [poll_lookup]
    exact hawait name key _ next ih hsound (intact.lookup sound now name key window job)
      (sound.belongs_lookup now name key window job) waits.2
  | awaiting name key id next ih =>
    exact hawait name key id next ih sound (intact.but name id) waits.1 waits.2

end Caller

namespace Chronicle

/-- What a lookup of a run has found was started for its key. -/
theorem Accounted.belongs {chronicle : Chronicle ε α ρ} (h : chronicle.Accounted)
    (booked : chronicle.Booked) {caller : Nat} {lookup : Lookup}
    (made : lookup ∈ chronicle.history.lookupsBy caller) :
    chronicle.pipeline.caches.Belongs lookup.cache lookup.key lookup.id := by
  obtain ⟨record, hmember, hhappening⟩ := History.exists_of_mem_lookupsBy made
  obtain ⟨_, _, _, _, _, _, _, _, _, _, _, _, _, hbuilt, _⟩ :=
    h.built booked hmember ⟨caller, hhappening⟩
  exact ⟨_, hbuilt, rfl⟩

/-- A caller that is running waits for what was started for the key that it has looked up. -/
theorem Attended.waits {chronicle : Chronicle ε α ρ} (h : chronicle.Attended)
    (booked : chronicle.Booked) {id : Nat} {caller : Caller ε α ρ}
    (running : chronicle.pipeline.callers[id]? = some (.running caller)) :
    caller.Waits chronicle.pipeline.caches := by
  have hinformed {program : Caller ε α ρ} {findings : Findings ε α}
      (hprogram : chronicle.started[id]? = some program)
      (leads : program.Leads findings caller) : caller.Orderly :=
    (h.orderly program (List.mem_of_getElem? hprogram)).leads leads
  cases caller with
  | awaiting name key waited next =>
    obtain ⟨⟨window, isNew, hawaited⟩, horderly⟩ := h.toEnrolled.awaited h.orderly running
    exact ⟨h.belongs booked (List.mem_of_getLast? hawaited), horderly⟩
  | done | record | lookup =>
    obtain ⟨program, hprogram, hcame⟩ := h.came id _ _ running rfl
    generalize chronicle.history.lookupsBy id = lookups at hcame
    cases hcame with
    | informed leads gave => exact hinformed hprogram leads

/-- After every run all caches are sound. -/
theorem sound_extend (documents : Documents) (events : List (Event ε α ρ)) :
    ((opened documents).extend events).pipeline.caches.Sound :=
  invariant_run documents (fun _ => AgedCache.sound_empty)
    (fun {_ _} h move => by
      obtain ⟨_, hchange, _⟩ := move.change
      exact hchange.sound h)
    events fun _ _ => trivial

/-- An event other than a poll gives no entry to a computation. -/
theorem entries_extend_quiet (chronicle : Chronicle ε α ρ) (event : Event ε α ρ)
    (quiet : ∀ id, event ≠ .poll id) {name key : String} {id : Nat}
    (h : ((chronicle.extend [event]).pipeline.caches.named name).entries.find? key = some id) :
    (chronicle.pipeline.caches.named name).entries.find? key = some id := by
  cases event with
  | poll id => exact absurd rfl (quiet id)
  | invalidate cache lost =>
    simp only [extend, Pipeline.run, Pipeline.step, Pipeline.changeCache, Caches.named_put] at h
    split at h
    · next hname =>
      subst hname
      rw [AgedCache.invalidate, Keyed.find?_erase, Option.ite_none_left_eq_some] at h
      exact h.2
    · exact h
  | clear cache =>
    simp only [extend, Pipeline.run, Pipeline.step, Pipeline.changeCache, Caches.named_put] at h
    split at h
    · cases h
    · exact h
  | drop id =>
    obtain ⟨callers, hdrop⟩ := chronicle.pipeline.dropCaller_eq id
    simpa only [extend, Pipeline.run, Pipeline.step, hdrop] using h
  | start | pass | publish | withdraw => exact h

/-- After every run of orderly callers no entry belongs to a computation that has failed. -/
theorem intact_extend (documents : Documents) {events : List (Event ε α ρ)}
    (orderly : ∀ event ∈ events, event.Orderly) :
    ((opened documents).extend events).pipeline.caches.Intact := by
  induction events using List.reverseRecOn with
  | nil =>
    intro name key id h
    simp [extend_nil, opened, Pipeline.opened, Caches.named, Keyed.find?, AgedCache.empty] at h
  | append_singleton earlier event ih =>
    have hearlier : ∀ event ∈ earlier, event.Orderly :=
      fun event hevent => orderly event (List.mem_append_left _ hevent)
    have intact := ih hearlier
    have attended := attended_extend documents hearlier
    have booked := booked_extend documents earlier
    have sound := sound_extend documents earlier
    rw [extend_append]
    generalize (opened documents).extend earlier = chronicle at *
    by_cases hpoll : ∃ id, event = .poll id
    · obtain ⟨id, rfl⟩ := hpoll
      simp only [extend, Pipeline.run, Pipeline.step, Pipeline.pollCaller]
      split
      · next caller running =>
        exact Caller.intact_poll _ _ caller sound intact (attended.waits booked running)
      · exact intact
    · -- other events let no computation go on, and at most take entries away
      have quiet : ∀ id, event ≠ .poll id := fun id h => hpoll ⟨id, h⟩
      rintro name key id hheld fault ⟨computation, hfound, hfailed⟩
      rw [chronicle.computations_extend_quiet event quiet] at hfound
      exact intact name key id (chronicle.entries_extend_quiet event quiet hheld) fault
        ⟨computation, hfound, hfailed⟩

end Chronicle

end RelyingParty
