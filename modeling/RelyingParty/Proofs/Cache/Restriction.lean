import RelyingParty.Proofs.Cache.Soundness

/-!
# One key of a cache

What a cache holds for one key is a cache of its own, in which the computations for the key are
numbered anew. What is done for the key does the same in both, and what is done for another key does
nothing to it.
-/

namespace RelyingParty

variable {ε α β ρ : Type}

/-- How often a name stands before a place. This numbers the places of the name. -/
def rank (names : List String) (name : String) (place : Nat) : Nat :=
  (names.take place).count name

/-- The values that stand beside a name. -/
def share (name : String) : List String → List β → List β
  | owner :: owners, value :: values =>
    if owner = name then value :: share name owners values else share name owners values
  | _, _ => []

section Shares

variable {name owner : String} {names : List String} {values : List β} {place other : Nat}

theorem rank_cons_succ (names : List String) (name owner : String) (place : Nat) :
    rank (owner :: names) name (place + 1) =
      rank names name place + if owner = name then 1 else 0 := by
  simp [rank, List.count_cons]

/-- Places of other names do not count. -/
theorem rank_le_rank (names : List String) (name : String) (le : place ≤ other) :
    rank names name place ≤ rank names name other :=
  (List.take_sublist_take_left le).count_le name

/-- The places of a name have different numbers. -/
theorem rank_lt_rank (held : names[place]? = some name) (lt : place < other) :
    rank names name place < rank names name other := by
  have hnext : rank names name (place + 1) = rank names name place + 1 := by
    simp [rank, List.take_add_one, held]
  have hle : rank names name (place + 1) ≤ rank names name other := rank_le_rank names name lt
  omega

theorem rank_inj (first : names[place]? = some name) (last : names[other]? = some name) :
    rank names name place = rank names name other ↔ place = other := by
  refine ⟨fun heq => ?_, fun heq => heq ▸ rfl⟩
  rcases Nat.lt_trichotomy place other with hlt | rfl | hgt
  · exact absurd heq (Nat.ne_of_lt (rank_lt_rank first hlt))
  · rfl
  · exact absurd heq.symm (Nat.ne_of_lt (rank_lt_rank last hgt))

theorem share_nil_right (name : String) (names : List String) :
    share name names ([] : List β) = [] := by
  cases names <;> rfl

/-- There are as many values as there are places of the name among theirs. -/
theorem length_share (h : values.length ≤ names.length) :
    (share name names values).length = rank names name values.length := by
  induction values generalizing names with
  | nil => rw [share_nil_right]; rfl
  | cons value values ih =>
    cases names with
    | nil => cases h
    | cons owner names =>
      have hrest := ih (Nat.le_of_succ_le_succ h)
      rw [List.length_cons, rank_cons_succ, share]
      split <;> simp [hrest]

/-- A value that stands beside the name is found at its number. -/
theorem getElem?_share (held : names[place]? = some name) :
    (share name names values)[rank names name place]? = values[place]? := by
  induction names generalizing values place with
  | nil => cases held
  | cons owner names ih =>
    cases values with
    | nil => rfl
    | cons value values =>
      cases place with
      | zero =>
        obtain rfl := Option.some.inj held
        simp [share, rank]
      | succ place =>
        rw [rank_cons_succ, share]
        split
        · exact ih held
        · exact ih held

/-- A change of a value that stands beside the name is one at its number. -/
theorem share_modify (change : β → β) (held : names[place]? = some name) :
    share name names (values.modify place change) =
      (share name names values).modify (rank names name place) change := by
  induction names generalizing values place with
  | nil => cases held
  | cons owner names ih =>
    cases values with
    | nil => simp [share_nil_right]
    | cons value values =>
      cases place with
      | zero =>
        obtain rfl := Option.some.inj held
        simp [share, rank]
      | succ place =>
        rw [rank_cons_succ, List.modify_succ_cons, share, share]
        split
        · rw [List.modify_succ_cons, ih held]
        · exact ih held

/-- A change of a value that stands beside another name is none. -/
theorem share_modify_of_ne (change : β → β) (held : names[place]? = some owner)
    (ne : owner ≠ name) :
    share name names (values.modify place change) = share name names values := by
  induction names generalizing values place with
  | nil => cases held
  | cons first names ih =>
    cases values with
    | nil => simp
    | cons value values =>
      cases place with
      | zero =>
        obtain rfl := Option.some.inj held
        simp [share, ne]
      | succ place =>
        rw [List.modify_succ_cons, share, share, ih held]

/-- A value that comes last stands beside the name or not. -/
theorem share_concat (value : β) (held : names[values.length]? = some owner) :
    share name names (values ++ [value]) =
      share name names values ++ if owner = name then [value] else [] := by
  induction values generalizing names with
  | nil =>
    cases names with
    | nil => cases held
    | cons first names =>
      obtain rfl := Option.some.inj held
      simp [share, share_nil_right]
  | cons first values ih =>
    cases names with
    | nil => cases held
    | cons other names =>
      have hlast : names[values.length]? = some owner := held
      rw [List.cons_append, share, share, ih hlast]
      split <;> rfl

/-- The same of a value that is replaced. -/
theorem share_set (value : β) (held : names[place]? = some name) :
    share name names (values.set place value) =
      (share name names values).set (rank names name place) value := by
  simp only [List.set_eq_modify]
  exact share_modify _ held

theorem share_set_of_ne (value : β) (held : names[place]? = some owner) (ne : owner ≠ name) :
    share name names (values.set place value) = share name names values := by
  rw [List.set_eq_modify]
  exact share_modify_of_ne _ held ne

/-- The names of the values themselves say which belong to a name. -/
theorem share_map (label : β → String) (h : values.map label <+: names) :
    share name names values = values.filter (label · = name) := by
  obtain ⟨more, rfl⟩ := h
  induction values with
  | nil => exact share_nil_right name _
  | cons value values ih =>
    rw [List.map_cons, List.cons_append, share, ih, List.filter_cons]
    simp

end Shares

namespace AgedCache

/-- The keys of the computations, in order. -/
def keys (cache : AgedCache ε α) : List String :=
  cache.computations.map Computation.key

/-- What a cache holds for one key. The computations for the key are numbered anew, in their order
among `owners`, the keys of all computations. -/
def only (owners : List String) (key : String) (cache : AgedCache ε α) : AgedCache ε α where
  computations := cache.computations.filter (·.key = key)
  entries := ((cache.entries.find? key).map fun id => (key, rank owners key id)).toList

variable {cache : AgedCache ε α} {owners : List String} {key other : String} {id : Nat}
  {computation : Computation ε α}

theorem keys_lookup (cache : AgedCache ε α) (now : Nat) (key : String) (window : Duration)
    (job : Job (Except ε α)) :
    (cache.lookup now key window job).cache.keys =
      cache.keys ++ if (cache.lookup now key window job).isNew then [key] else [] := by
  rw [keys, computations_lookup, List.map_append, ← keys]
  split <;> rfl

theorem keys_poll (cache : AgedCache ε α) (now : Nat) (documents : Documents) (id : Nat) :
    (cache.poll now documents id).cache.keys = cache.keys := by
  have hstamps := congrArg (List.map Prod.fst) (cache.stamps_poll now documents id)
  simp only [stamps, List.map_map, Function.comp_def] at hstamps
  exact hstamps

/-- A computation stands beside its key. -/
theorem getElem?_owners (h : cache.keys <+: owners)
    (found : cache.computations[id]? = some computation) : owners[id]? = some computation.key := by
  obtain ⟨more, rfl⟩ := h
  have hlength := (List.getElem?_eq_some_iff.mp found).1
  rw [keys, List.getElem?_append_left (by rwa [List.length_map]), List.getElem?_map, found]
  rfl

theorem computations_only (h : cache.keys <+: owners) :
    (cache.only owners key).computations = share key owners cache.computations :=
  (share_map Computation.key h).symm

theorem find?_entries_only :
    (cache.only owners key).entries.find? key =
      (cache.entries.find? key).map (rank owners key) := by
  simp only [only]
  cases cache.entries.find? key with
  | none => rfl
  | some id => simp [Keyed.find?_cons]

/-- A computation for the key is found at its new number. -/
theorem getElem?_only (h : cache.keys <+: owners)
    (found : cache.computations[id]? = some computation) (owner : computation.key = key) :
    (cache.only owners key).computations[rank owners key id]? = some computation := by
  have hheld := getElem?_owners h found
  rw [owner] at hheld
  rw [computations_only h, getElem?_share hheld, found]

/-- Whoever looks the key up finds the same. -/
theorem fresh?_only (sound : cache.Sound) (h : cache.keys <+: owners) (now : Nat) (key : String)
    (window : Duration) :
    (cache.only owners key).fresh? now key window =
      (cache.fresh? now key window).map (rank owners key) := by
  simp only [fresh?, find?_entries_only, Option.bind_eq_bind]
  cases hheld : cache.entries.find? key with
  | none => rfl
  | some id =>
    obtain ⟨computation, hfound, howner⟩ := sound.owner key id hheld
    simp only [Option.map_some, Option.bind_some, getElem?_only h hfound howner, hfound]
    split <;> rfl

/-- A lookup of the key does the same. -/
theorem lookup_only (sound : cache.Sound) {now : Nat} {window : Duration}
    {job : Job (Except ε α)} (h : (cache.lookup now key window job).cache.keys <+: owners) :
    (cache.only owners key).lookup now key window job =
      ⟨(cache.lookup now key window job).cache.only owners key,
        rank owners key (cache.lookup now key window job).id,
        (cache.lookup now key window job).isNew⟩ := by
  have hkeys : cache.keys <+: owners := by
    refine List.IsPrefix.trans ?_ h
    rw [keys_lookup]
    exact List.prefix_append _ _
  have hfresh := fresh?_only sound hkeys now key window
  unfold lookup at *
  rw [hfresh]
  split at h
  · next id hheld => simp only [hheld, Option.map_some]
  · next hnone =>
    -- the new computation comes after all others, and is the only one that is added
    have hlength : (cache.only owners key).computations.length =
        rank owners key cache.computations.length := by
      have hle : cache.computations.length ≤ owners.length := by
        simpa [keys] using hkeys.length_le
      rw [computations_only hkeys, length_share hle]
    have hadded : (cache.only owners key).install now key job =
        (cache.install now key job).only owners key := by
      simp only [only] at hlength
      simp only [install, only, hlength, Keyed.find?_put]
      cases cache.entries.find? key <;> simp [Keyed.put]
    simp only [hnone, Option.map_none, hlength, hadded]

/-- A lookup of another key does nothing to the key. -/
theorem only_lookup_of_ne (owners : List String) (ne : other ≠ key) (now : Nat)
    (window : Duration) (job : Job (Except ε α)) :
    (cache.lookup now other window job).cache.only owners key = cache.only owners key := by
  unfold lookup
  split
  · rfl
  · simp [only, install, Keyed.find?_put, ne, Ne.symm ne]

/-- A poll of a computation for the key does the same. -/
theorem poll_only (h : cache.keys <+: owners)
    (found : cache.computations[id]? = some computation) (owner : computation.key = key)
    (now : Nat) (documents : Documents) :
    (cache.only owners key).poll now documents (rank owners key id) =
      ⟨(cache.poll now documents id).cache.only owners key,
        (cache.poll now documents id).result, (cache.poll now documents id).seen⟩ := by
  have hheld := getElem?_owners h found
  rw [owner] at hheld
  have hkeys := cache.keys_poll now documents id
  simp only [poll, getElem?_only h found owner, found] at hkeys ⊢
  generalize (computation.job.poll now documents).1 = job at hkeys
  have hupdate : (cache.only owners key).update (rank owners key id) job =
      (cache.update id job).only owners key := by
    have hcomputations : ((cache.only owners key).update (rank owners key id) job).computations =
        ((cache.update id job).only owners key).computations := by
      rw [computations_only (hkeys ▸ h), update, update, share_modify _ hheld, computations_only h]
    simp only [only, update] at hcomputations ⊢
    rw [hcomputations]
  rw [hupdate]

/-- A poll of a computation for another key does nothing to the key. -/
theorem only_poll_of_ne (owners : List String)
    (found : cache.computations[id]? = some computation)
    (ne : computation.key ≠ key) (now : Nat) (documents : Documents) :
    (cache.poll now documents id).cache.only owners key = cache.only owners key := by
  have hkeys := cache.keys_poll now documents id
  have hheld := getElem?_owners (List.prefix_refl cache.keys) found
  have hcomputations : (cache.poll now documents id).cache.computations.filter (·.key = key) =
      cache.computations.filter (·.key = key) := by
    rw [← share_map Computation.key (List.prefix_refl _), ← keys, hkeys,
      ← share_map Computation.key (List.prefix_refl _), ← keys, poll, found]
    exact share_modify_of_ne _ hheld ne
  simp only [only, entries_poll, hcomputations]

/-- What is taken away from the key is taken away from it in both. -/
theorem invalidate_only (owners : List String) (key : String) (cache : AgedCache ε α) :
    (cache.only owners key).invalidate key = (cache.invalidate key).only owners key := by
  have hlost : Keyed.find? (cache.entries.erase key) key = none := by
    rw [Keyed.find?_erase, if_pos rfl]
  simp only [only, invalidate, hlost]
  cases cache.entries.find? key <;> simp [Keyed.erase]

/-- A computation for the key loses its entry in both. -/
theorem evict_only (sound : cache.Sound) (h : cache.keys <+: owners)
    (found : cache.computations[id]? = some computation) (owner : computation.key = key) :
    (cache.only owners key).evict key (rank owners key id) = (cache.evict key id).only owners key ∧
      ((cache.only owners key).entries.find? key = some (rank owners key id) ↔
        cache.entries.find? key = some id) := by
  have hheld := getElem?_owners h found
  rw [owner] at hheld
  have hsame : (cache.only owners key).entries.find? key = some (rank owners key id) ↔
      cache.entries.find? key = some id := by
    rw [find?_entries_only]
    cases hentry : cache.entries.find? key with
    | none => simp
    | some place =>
      obtain ⟨last, hlast, howner⟩ := sound.owner key place hentry
      have hplace := getElem?_owners h hlast
      rw [howner] at hplace
      rw [Option.map_some, Option.some.injEq, rank_inj hplace hheld, Option.some.injEq]
  refine ⟨?_, hsame⟩
  unfold evict
  by_cases hentry : cache.entries.find? key = some id
  · rw [if_pos (hsame.mpr hentry), if_pos hentry]
    exact invalidate_only owners key cache
  · rw [if_neg (mt hsame.mp hentry), if_neg hentry]

/-- What is taken away from another key does nothing to the key. -/
theorem only_invalidate_of_ne (owners : List String) (ne : other ≠ key) :
    (cache.invalidate other).only owners key = cache.only owners key := by
  simp [only, invalidate, Keyed.find?_erase, Ne.symm ne]

theorem only_evict_of_ne (owners : List String) (ne : other ≠ key) (id : Nat) :
    (cache.evict other id).only owners key = cache.only owners key := by
  unfold evict
  split
  · exact only_invalidate_of_ne owners ne
  · rfl

theorem clear_only (owners : List String) (key : String) (cache : AgedCache ε α) :
    (cache.only owners key).clear = cache.clear.only owners key :=
  rfl

end AgedCache

/-- The same with the computations numbered anew. -/
def Observation.renumbered (number : Nat → Nat) : Observation → Observation
  | .lookedUp lookup => .lookedUp { lookup with id := number lookup.id }
  | .evicted cache key id => .evicted cache key (number id)
  | observation => observation

/-- The same with the computations numbered anew. -/
def Caller.renumbered (number : Nat → Nat) : Caller ε α ρ → Caller ε α ρ
  | .awaiting cache key id next => .awaiting cache key (number id) next
  | caller => caller

/-- The same with the computations numbered anew. -/
def Slot.renumbered (number : Nat → Nat) : Slot ε α ρ → Slot ε α ρ
  | .running caller => .running (caller.renumbered number)
  | slot => slot

theorem Caller.result?_renumbered (number : Nat → Nat) (caller : Caller ε α ρ) :
    (caller.renumbered number).result? = caller.result? := by
  cases caller <;> rfl

theorem Slot.result?_renumbered (number : Nat → Nat) (slot : Slot ε α ρ) :
    (slot.renumbered number).result? = slot.result? := by
  cases slot <;> rfl

namespace Caches

variable {caches others : Caches ε α} {cache key other : String} {owners : List String} {id : Nat}

/-- Who waits for a computation for the key gets the same. -/
theorem await_only (sound : (caches.named cache).Sound)
    (same : others.named cache = (caches.named cache).only owners key)
    (h : (caches.named cache).keys <+: owners) (belongs : caches.Belongs cache key id) (now : Nat)
    (documents : Documents) :
    (others.await now documents cache key (rank owners key id)).caches.named cache =
        ((caches.await now documents cache key id).caches.named cache).only owners key ∧
      (others.await now documents cache key (rank owners key id)).result =
        (caches.await now documents cache key id).result ∧
      (others.await now documents cache key (rank owners key id)).seen =
        (caches.await now documents cache key id).seen.map
          (Observation.renumbered (rank owners key)) := by
  obtain ⟨computation, hfound, howner⟩ := belongs
  have hpoll := AgedCache.poll_only h hfound howner now documents
  have hpolled : ((caches.named cache).poll now documents id).cache.computations[id]? =
      some { computation with job := (computation.job.poll now documents).1 } := by
    rw [AgedCache.getElem?_computations_poll, hfound, Option.map_some, if_pos rfl]
  obtain ⟨hevict, hheld⟩ := AgedCache.evict_only (sound.poll now documents id)
    ((caches.named cache).keys_poll now documents id ▸ h) hpolled howner
  have hseen (effects : List Job.Effect) :
      (effects.map Job.Effect.observation).map (Observation.renumbered (rank owners key)) =
        effects.map Job.Effect.observation := by
    rw [List.map_map]
    exact List.map_congr_left fun effect _ => by cases effect <;> rfl
  simp only [await, same, hpoll]
  generalize (caches.named cache).poll now documents id = polled at hevict hheld
  split
  · next fault hfault =>
    simp only [named_put, if_true, hevict, hheld, List.map_append, hseen, true_and]
    split <;> rfl
  · simp only [named_put, if_true, hseen, and_self]

/-- Waiting for a computation for another key does nothing to the key. -/
theorem only_await_of_ne (owners : List String) (belongs : caches.Belongs cache other id)
    (ne : other ≠ key) (now : Nat) (documents : Documents) :
    ((caches.await now documents cache other id).caches.named cache).only owners key =
      (caches.named cache).only owners key := by
  obtain ⟨computation, hfound, howner⟩ := belongs
  have hpoll := AgedCache.only_poll_of_ne owners hfound (howner ▸ ne) now documents
  simp only [await]
  split
  · rw [named_put, if_pos rfl, AgedCache.only_evict_of_ne owners ne, hpoll]
  · rw [named_put, if_pos rfl, hpoll]

theorem keys_await (caches : Caches ε α) (now : Nat) (documents : Documents)
    (cache key : String) (id : Nat) :
    ((caches.await now documents cache key id).caches.named cache).keys =
      (caches.named cache).keys := by
  rw [AgedCache.keys, computations_await, if_pos rfl]
  exact (caches.named cache).keys_poll now documents id

end Caches

namespace Caller

/-- What a caller that looks one key up comes to. -/
inductive Seeks (caches : Caches ε α) (cache key : String) : Caller ε α ρ → Prop where
  /-- It has not begun. -/
  | looking (window : Duration) (job : Job (Except ε α)) (next : Except ε α → ρ) :
    Seeks caches cache key (.get cache key window job fun _ => next)
  /-- It waits for a computation that was started for the key. -/
  | waiting (id : Nat) (next : Except ε α → ρ) (belongs : caches.Belongs cache key id) :
    Seeks caches cache key (.awaiting cache key id fun _ result => .done (next result))
  /-- It is done. -/
  | done (result : ρ) : Seeks caches cache key (.done result)

variable {caches others : Caches ε α} {cache key other : String} {owners : List String}
  {caller : Caller ε α ρ}

/-- What a poll comes to agrees with what a poll comes to for which there is one key alone. -/
structure Polled.Agrees (owners : List String) (cache key : String)
    (polled alone : Polled ε α ρ) : Prop where
  /-- The caches hold the same for the key. -/
  caches : alone.caches.named cache = (polled.caches.named cache).only owners key
  /-- The same is left to do. -/
  caller : alone.caller = polled.caller.renumbered (rank owners key)
  /-- The same has happened. -/
  seen : alone.seen = polled.seen.map (Observation.renumbered (rank owners key))

/-- Who waits for a computation for the key gets the same. -/
theorem poll_awaiting_only (sound : (caches.named cache).Sound)
    (same : others.named cache = (caches.named cache).only owners key)
    (h : (caches.named cache).keys <+: owners) {id : Nat} (belongs : caches.Belongs cache key id)
    (now : Nat) (documents : Documents) (next : Except ε α → ρ) :
    Polled.Agrees owners cache key
      ((awaiting cache key id fun _ result => .done (next result)).poll now documents caches)
      ((awaiting cache key (rank owners key id) fun _ result => .done (next result)).poll now
        documents others) := by
  obtain ⟨hcaches, hresult, hseen⟩ := Caches.await_only sound same h belongs now documents
  rw [poll_awaiting_done, poll_awaiting_done]
  refine ⟨hcaches, ?_, hseen⟩
  simp only [hresult]
  split <;> rfl

/-- A poll of a caller that looks the key up does the same. -/
theorem poll_only (seeks : caller.Seeks caches cache key) (sound : caches.Sound)
    (same : others.named cache = (caches.named cache).only owners key) (now : Nat)
    (documents : Documents)
    (h : ((caller.poll now documents caches).caches.named cache).keys <+: owners) :
    Polled.Agrees owners cache key (caller.poll now documents caches)
      ((caller.renumbered (rank owners key)).poll now documents others) := by
  cases seeks with
  | done result => exact ⟨same, rfl, rfl⟩
  | waiting id next belongs =>
    rw [poll_awaiting_done] at h
    rw [Caches.keys_await] at h
    exact poll_awaiting_only (sound cache) same h belongs now documents next
  | looking window job next =>
    rw [poll_lookup, poll_awaiting_done] at h
    simp only [Polled.after, Caches.keys_await, Caches.named_put, if_true] at h
    have hlookup := AgedCache.lookup_only (sound cache) h
    have hbelongs := sound.belongs_lookup now cache key window job
    have hsound := sound.put cache ((sound cache).lookup now key window job)
    simp only [renumbered, poll_lookup, same, hlookup]
    generalize (caches.named cache).lookup now key window job = found at h hbelongs hsound
    have hsame : Caches.named (Keyed.put cache (found.cache.only owners key) others) cache =
        (Caches.named (Keyed.put cache found.cache caches) cache).only owners key := by
      simp only [Caches.named_put, if_true]
    have hkeys : (Caches.named (Keyed.put cache found.cache caches) cache).keys <+: owners := by
      rwa [Caches.named_put, if_pos rfl]
    have hrest := poll_awaiting_only (hsound cache) hsame hkeys hbelongs now documents next
    refine ⟨hrest.caches, hrest.caller, ?_⟩
    simp only [Polled.after, List.map_append, ← hrest.seen]
    rfl

/-- A poll of a caller that looks another key up does nothing to the key. -/
theorem only_poll_of_ne (owners : List String) (seeks : caller.Seeks caches cache other)
    (sound : caches.Sound) (ne : other ≠ key) (now : Nat) (documents : Documents) :
    ((caller.poll now documents caches).caches.named cache).only owners key =
      (caches.named cache).only owners key := by
  cases seeks with
  | done result => rfl
  | waiting id next belongs =>
    rw [poll_awaiting_done]
    exact Caches.only_await_of_ne owners belongs ne now documents
  | looking window job next =>
    have hbelongs := sound.belongs_lookup now cache other window job
    rw [poll_lookup, poll_awaiting_done]
    simp only [Polled.after]
    rw [Caches.only_await_of_ne owners hbelongs ne, Caches.named_put, if_pos rfl,
      AgedCache.only_lookup_of_ne owners ne]

end Caller

end RelyingParty
