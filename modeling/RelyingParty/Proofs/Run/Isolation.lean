import RelyingParty.Proofs.Cache.Restriction
import RelyingParty.Proofs.Run.Prompt

/-!
# Isolation of keys

Callers that share a cache and look up different keys have nothing to do with each other. A run from
which everything is left out that is done for other keys does the same for the key that remains: the
same lookups start a computation, every caller comes to its result at the same moment, and the key
has an entry whenever it has one in the whole run. Only the numbers are others, of the callers as of
the computations.
-/

namespace RelyingParty

variable {ε α ρ : Type}

/-- Somebody who looks a key up once and makes a result of what comes of it. -/
structure Get (ε α ρ : Type) where
  /-- The key. -/
  key : String
  /-- How old the entry may be. -/
  window : Duration
  /-- The job for a new computation. -/
  job : Job (Except ε α)
  /-- What is made of the result of the computation. -/
  next : Except ε α → ρ

/-- The caller that looks the key up in a cache. -/
def Get.caller (cache : String) (get : Get ε α ρ) : Caller ε α ρ :=
  .get cache get.key get.window get.job fun _ => get.next

/-- The key that a caller is about to look up. -/
def Caller.key? : Caller ε α ρ → Option String
  | .lookup _ key _ _ _ => some key
  | _ => none

/-- What remains of an event when there is one key alone. The callers are numbered anew, in their
order among `keys`, the keys of all callers; what concerns no single key remains as it is. -/
def Event.only? (keys : List String) (key : String) : Event ε α ρ → Option (Event ε α ρ)
  | .start caller => if caller.key? = some key then some (.start caller) else none
  | .poll id => if keys[id]? = some key then some (.poll (rank keys key id)) else none
  | .drop id => if keys[id]? = some key then some (.drop (rank keys key id)) else none
  | .invalidate cache other => if other = key then some (.invalidate cache other) else none
  | event => some event

/-- The events that remain when there is one key alone. -/
def Event.isolated (keys : List String) (key : String) (events : List (Event ε α ρ)) :
    List (Event ε α ρ) :=
  events.filterMap (only? keys key)

/-- What remains of something that happened when there is one key alone. The computations are
numbered anew too, in their order among `owners`, the keys of all computations. -/
def Happening.only? (keys owners : List String) (key : String) : Happening → Option Happening
  | .observed caller observation =>
    if keys[caller]? = some key then
      some (.observed (rank keys key caller) (observation.renumbered (rank owners key)))
    else none
  | .invalidated cache other => if other = key then some (.invalidated cache other) else none
  | .cleared cache => some (.cleared cache)

/-- What remains of a history when there is one key alone. -/
def History.only (keys owners : List String) (key : String) (history : History) : History :=
  history.filterMap fun record =>
    (record.happening.only? keys owners key).map fun happening => { record with happening }

/-- The moment at which a caller comes to its result, and the result. -/
def Pipeline.completion? (id : Nat) : Pipeline ε α ρ → List (Event ε α ρ) → Option (Nat × ρ)
  | pipeline, [] => (pipeline.callers[id]?.bind Slot.result?).map (pipeline.clock, ·)
  | pipeline, event :: rest =>
    match pipeline.callers[id]?.bind Slot.result? with
    | some result => some (pipeline.clock, result)
    | none => (pipeline.step event).1.completion? id rest

theorem Event.isolated_append (keys : List String) (key : String)
    (first last : List (Event ε α ρ)) :
    isolated keys key (first ++ last) = isolated keys key first ++ isolated keys key last :=
  List.filterMap_append

theorem Event.isolated_of_some {keys : List String} {key : String} {event next : Event ε α ρ}
    (h : event.only? keys key = some next) : isolated keys key [event] = [next] := by
  rw [isolated, List.filterMap_cons, h, List.filterMap_nil]

theorem Event.isolated_of_none {keys : List String} {key : String} {event : Event ε α ρ}
    (h : event.only? keys key = none) : isolated keys key [event] = [] := by
  rw [isolated, List.filterMap_cons, h, List.filterMap_nil]

/-- The callers that have been started are known by their keys. -/
theorem Get.exists_of_started {gets : List (Get ε α ρ)} {cache : String}
    {started : List (Caller ε α ρ)} (asked : started <+: gets.map (Get.caller cache)) {id : Nat}
    {caller : Caller ε α ρ} (found : started[id]? = some caller) :
    ∃ get : Get ε α ρ, caller = get.caller cache ∧ (gets.map Get.key)[id]? = some get.key := by
  obtain ⟨more, hmore⟩ := asked
  have hid := (List.getElem?_eq_some_iff.mp found).1
  have hcaller : (gets.map (Get.caller cache))[id]? = some caller := by
    rw [← hmore, List.getElem?_append_left hid, found]
  rw [List.getElem?_map] at hcaller
  obtain ⟨get, hget, rfl⟩ := Option.map_eq_some_iff.mp hcaller
  exact ⟨get, rfl, by rw [List.getElem?_map, hget, Option.map_some]⟩

/-- What is left of one who looks a key up is all, or a result. -/
theorem Get.eq_of_leads {get : Get ε α ρ} {cache : String} {findings : Findings ε α}
    {left : Caller ε α ρ} (leads : (get.caller cache).Leads findings left) :
    left = get.caller cache ∨ ∃ result, left = .done (get.next result) := by
  cases leads with
  | refl => exact .inl rfl
  | @lookup _ _ _ _ _ _ result _ _ _ rest =>
    cases rest with
    | refl => exact .inr ⟨result, rfl⟩

namespace Pipeline

/-- Every caller looks up the key that is its own, and every entry belongs to its key. -/
structure Seeks (cache : String) (keys : List String) (pipeline : Pipeline ε α ρ) : Prop where
  /-- Every entry belongs to a computation for its key. -/
  sound : pipeline.caches.Sound
  /-- Every caller has a key. -/
  numbered : pipeline.callers.length ≤ keys.length
  /-- Every caller that is running looks its key up. -/
  running : ∀ (id : Nat) (caller : Caller ε α ρ),
    pipeline.callers[id]? = some (.running caller) →
    ∃ key, keys[id]? = some key ∧ caller.Seeks pipeline.caches cache key

/-- After every run of such callers each looks up the key that is its own. -/
theorem seeks_run (documents : Documents) {cache : String} {gets : List (Get ε α ρ)}
    {events : List (Event ε α ρ)}
    (asked : Event.started events <+: gets.map (Get.caller cache)) :
    ((opened documents).run events).1.Seeks cache (gets.map Get.key) := by
  have orderly : ∀ event ∈ events, event.Orderly := by
    rintro event hevent caller rfl
    have hcaller : caller ∈ Event.started events := List.mem_filterMap.mpr ⟨_, hevent, rfl⟩
    obtain ⟨get, _, rfl⟩ := List.mem_map.mp (asked.subset hcaller)
    exact ⟨trivial, fun _ _ => trivial⟩
  have attended := Chronicle.attended_extend documents orderly
  have booked := Chronicle.booked_extend documents events
  refine ⟨Chronicle.sound_extend documents events, ?_, fun id caller running => ?_⟩
  · have hlength := asked.length_le
    have hnumbered := length_callers_run documents events
    rw [List.length_map] at hlength ⊢
    omega
  · obtain ⟨program, hprogram, hcame⟩ := attended.came id _ caller running rfl
    have hwaits := attended.waits booked running
    obtain ⟨get, rfl, hkey⟩ := Get.exists_of_started asked hprogram
    refine ⟨get.key, hkey, ?_⟩
    generalize ((Chronicle.opened documents).extend events).history.lookupsBy id = lookups at hcame
    cases hcame with
    | informed leads =>
      rcases Get.eq_of_leads leads with rfl | ⟨result, rfl⟩
      · exact .looking _ _ _
      · exact .done _
    | waiting leads =>
      rcases Get.eq_of_leads leads with hsame | ⟨result, hsame⟩
      · obtain ⟨rfl, rfl, rfl, rfl, rfl⟩ := Caller.lookup.inj hsame
        exact .waiting _ _ hwaits.1
      · cases hsame

/-- In a run there is one key alone, and otherwise everything is as in another run. -/
structure Follows (cache key : String) (keys owners : List String)
    (whole alone : Pipeline ε α ρ) : Prop where
  /-- It is the same moment. -/
  clock : alone.clock = whole.clock
  /-- The same documents are to be had. -/
  documents : alone.documents = whole.documents
  /-- The cache holds the same for the key. -/
  caches : alone.caches.named cache = (whole.caches.named cache).only owners key
  /-- The callers for the key have come to the same. -/
  callers : alone.callers =
    (share key keys whole.callers).map (Slot.renumbered (rank owners key))

variable {cache key : String} {keys owners : List String} {whole alone : Pipeline ε α ρ} {id : Nat}

theorem Follows.slot (h : Follows cache key keys owners whole alone)
    (held : keys[id]? = some key) :
    alone.callers[rank keys key id]? =
      whole.callers[id]?.map (Slot.renumbered (rank owners key)) := by
  rw [h.callers, List.getElem?_map, getElem?_share held]

/-- A caller for the key that comes to another state comes to it in both. -/
theorem Follows.set (h : Follows cache key keys owners whole alone) (held : keys[id]? = some key)
    {caches others : Caches ε α}
    (same : others.named cache = (caches.named cache).only owners key) (slot : Slot ε α ρ) :
    Follows cache key keys owners
      { whole with caches, callers := whole.callers.set id slot }
      { alone with
        caches := others
        callers := alone.callers.set (rank keys key id) (slot.renumbered (rank owners key)) } where
  clock := h.clock
  documents := h.documents
  caches := same
  callers := by rw [h.callers, share_set slot held, List.map_set]

/-- A caller for another key that comes to another state changes nothing for the key. -/
theorem Follows.set_of_ne (h : Follows cache key keys owners whole alone) {owner : String}
    (held : keys[id]? = some owner) (ne : owner ≠ key) {caches : Caches ε α}
    (same : (caches.named cache).only owners key = (whole.caches.named cache).only owners key)
    (slot : Slot ε α ρ) :
    Follows cache key keys owners { whole with caches, callers := whole.callers.set id slot }
      alone where
  clock := h.clock
  documents := h.documents
  caches := by rw [h.caches, same]
  callers := by rw [h.callers, share_set_of_ne slot held ne]

/-- A poll of a caller for the key does the same. -/
theorem Follows.poll (h : Follows cache key keys owners whole alone)
    (seeks : whole.Seeks cache keys) (held : keys[id]? = some key)
    (started : ((whole.pollCaller id).1.caches.named cache).keys <+: owners) :
    Follows cache key keys owners (whole.pollCaller id).1
        (alone.pollCaller (rank keys key id)).1 ∧
      (alone.pollCaller (rank keys key id)).2 =
        (whole.pollCaller id).2.map (Observation.renumbered (rank owners key)) := by
  have hslot := h.slot held
  match hwhole : whole.callers[id]? with
  | some (.running caller) =>
    rw [hwhole] at hslot
    obtain ⟨owner, howner, hseeks⟩ := seeks.running id caller hwhole
    obtain rfl := Option.some.inj (held.symm.trans howner)
    rw [pollCaller_of_running hwhole] at started ⊢
    rw [pollCaller_of_running hslot, h.clock, h.documents]
    have hagrees := Caller.poll_only hseeks seeks.sound h.caches whole.clock whole.documents started
    generalize caller.poll whole.clock whole.documents whole.caches = polled at hagrees
    generalize (caller.renumbered (rank owners key)).poll whole.clock whole.documents
      alone.caches = other at hagrees
    refine ⟨?_, hagrees.seen⟩
    cases hresult : polled.caller.result? with
    | some result =>
      simp only [arrived, hagrees.caller, Caller.result?_renumbered, hresult]
      exact h.set held hagrees.caches (.finished result)
    | none =>
      simp only [arrived, hagrees.caller, Caller.result?_renumbered, hresult]
      exact h.set held hagrees.caches (.running polled.caller)
  | none | some (.finished _) | some .dropped =>
    rw [hwhole] at hslot
    simp only [pollCaller, hwhole, hslot, Option.map_none, Option.map_some, Slot.renumbered]
    exact ⟨h, rfl⟩

/-- A poll of a caller for another key changes nothing for the key. -/
theorem Follows.poll_of_ne (h : Follows cache key keys owners whole alone)
    (seeks : whole.Seeks cache keys) (ne : keys[id]? ≠ some key) :
    Follows cache key keys owners (whole.pollCaller id).1 alone := by
  match hwhole : whole.callers[id]? with
  | some (.running caller) =>
    obtain ⟨owner, howner, hseeks⟩ := seeks.running id caller hwhole
    have hother : owner ≠ key := fun heq => ne (heq ▸ howner)
    have hsame := Caller.only_poll_of_ne owners hseeks seeks.sound hother whole.clock
      whole.documents
    rw [pollCaller_of_running hwhole]
    exact h.set_of_ne howner hother hsame _
  | none | some (.finished _) | some .dropped =>
    simp only [pollCaller, hwhole]
    exact h

theorem Follows.drop (h : Follows cache key keys owners whole alone)
    (held : keys[id]? = some key) :
    Follows cache key keys owners (whole.dropCaller id)
      (alone.dropCaller (rank keys key id)) := by
  have hslot := h.slot held
  match hwhole : whole.callers[id]? with
  | some (.running caller) =>
    rw [hwhole] at hslot
    simp only [dropCaller, hwhole, hslot, Option.map_some, Slot.renumbered]
    exact h.set held h.caches .dropped
  | none | some (.finished _) | some .dropped =>
    rw [hwhole] at hslot
    simp only [dropCaller, hwhole, hslot, Option.map_none, Option.map_some, Slot.renumbered]
    exact h

theorem Follows.drop_of_ne (h : Follows cache key keys owners whole alone)
    (seeks : whole.Seeks cache keys) (ne : keys[id]? ≠ some key) :
    Follows cache key keys owners (whole.dropCaller id) alone := by
  match hwhole : whole.callers[id]? with
  | some (.running caller) =>
    obtain ⟨owner, howner, _⟩ := seeks.running id caller hwhole
    simp only [dropCaller, hwhole]
    exact h.set_of_ne howner (fun heq => ne (heq ▸ howner)) rfl .dropped
  | none | some (.finished _) | some .dropped =>
    simp only [dropCaller, hwhole]
    exact h

/-- What is taken away from all entries is taken away in both. -/
theorem Follows.change (h : Follows cache key keys owners whole alone) (name : String)
    (change : AgedCache ε α → AgedCache ε α)
    (same : ∀ cache, change (AgedCache.only owners key cache) = (change cache).only owners key) :
    Follows cache key keys owners (whole.changeCache name change)
      (alone.changeCache name change) := by
  refine ⟨h.clock, h.documents, ?_, h.callers⟩
  simp only [changeCache, Caches.named_put]
  split
  · next hname => rw [← hname, h.caches, same]
  · exact h.caches

/-- What is taken away from another key changes nothing for the key. -/
theorem Follows.invalidate_of_ne (h : Follows cache key keys owners whole alone) (name : String)
    {other : String} (ne : other ≠ key) :
    Follows cache key keys owners (whole.changeCache name (·.invalidate other)) alone := by
  refine ⟨h.clock, h.documents, ?_, h.callers⟩
  simp only [changeCache, Caches.named_put]
  split
  · next hname => rw [← hname, h.caches, AgedCache.only_invalidate_of_ne owners ne]
  · exact h.caches

/-- A caller that starts is started in both if it is for the key. -/
theorem Follows.start (h : Follows cache key keys owners whole alone) {get : Get ε α ρ}
    (held : keys[whole.callers.length]? = some get.key) :
    Follows cache key keys owners (whole.step (.start (get.caller cache))).1
        (alone.run (Event.isolated keys key [.start (get.caller cache)])).1 ∧
      alone.history (Event.isolated keys key [.start (get.caller cache)]) = [] := by
  have hconcat : (share key keys (whole.callers ++ [.running (get.caller cache)])).map
        (Slot.renumbered (rank owners key)) =
      alone.callers ++ if get.key = key then [.running (get.caller cache)] else [] := by
    rw [share_concat _ held, List.map_append, ← h.callers]
    split <;> rfl
  have honly : (Event.start (get.caller cache) : Event ε α ρ).only? keys key =
      if get.key = key then some (.start (get.caller cache)) else none := by
    simp only [Event.only?, Get.caller, Caller.key?, Option.some.injEq]
  by_cases heq : get.key = key
  · rw [if_pos heq] at hconcat honly
    rw [Event.isolated_of_some honly]
    exact ⟨⟨h.clock, h.documents, h.caches, hconcat.symm⟩, rfl⟩
  · rw [if_neg heq, List.append_nil] at hconcat
    rw [if_neg heq] at honly
    rw [Event.isolated_of_none honly]
    exact ⟨⟨h.clock, h.documents, h.caches, hconcat.symm⟩, rfl⟩

/-- With every event a run with one key alone goes on as the whole run does. -/
theorem Follows.step (h : Follows cache key keys owners whole alone)
    (seeks : whole.Seeks cache keys) (event : Event ε α ρ)
    (starts : ∀ caller, event = .start caller →
      ∃ get : Get ε α ρ, caller = get.caller cache ∧ keys[whole.callers.length]? = some get.key)
    (started : ((whole.step event).1.caches.named cache).keys <+: owners) :
    Follows cache key keys owners (whole.step event).1
        (alone.run (Event.isolated keys key [event])).1 ∧
      alone.history (Event.isolated keys key [event]) =
        (whole.records event).only keys owners key := by
  cases event with
  | start caller =>
    obtain ⟨get, rfl, hheld⟩ := starts caller rfl
    exact h.start hheld
  | poll id =>
    by_cases hheld : keys[id]? = some key
    · obtain ⟨hstate, hseen⟩ := h.poll seeks hheld started
      have honly : (Event.poll id : Event ε α ρ).only? keys key =
          some (.poll (rank keys key id)) := if_pos hheld
      rw [Event.isolated_of_some honly]
      refine ⟨hstate, ?_⟩
      simp only [history, records, List.append_nil, hseen, List.map_map, History.only,
        List.filterMap_map, Function.comp_def, stamp, Happening.only?, hheld, if_true,
        Option.map_some, List.filterMap_eq_map', h.clock, h.documents]
    · have honly : (Event.poll id : Event ε α ρ).only? keys key = none := if_neg hheld
      rw [Event.isolated_of_none honly]
      refine ⟨h.poll_of_ne seeks hheld, ?_⟩
      simp only [history, records, History.only, List.filterMap_map, Function.comp_def, stamp,
        Happening.only?, hheld, if_false, Option.map_none, List.filterMap_none]
  | drop id =>
    by_cases hheld : keys[id]? = some key
    · have honly : (Event.drop id : Event ε α ρ).only? keys key =
          some (.drop (rank keys key id)) := if_pos hheld
      rw [Event.isolated_of_some honly]
      exact ⟨h.drop hheld, rfl⟩
    · have honly : (Event.drop id : Event ε α ρ).only? keys key = none := if_neg hheld
      rw [Event.isolated_of_none honly]
      exact ⟨h.drop_of_ne seeks hheld, rfl⟩
  | invalidate name other =>
    by_cases heq : other = key
    · subst heq
      have honly : (Event.invalidate name other : Event ε α ρ).only? keys other =
          some (.invalidate name other) := if_pos rfl
      rw [Event.isolated_of_some honly]
      refine ⟨h.change name (·.invalidate other) (AgedCache.invalidate_only owners other), ?_⟩
      simp [history, records, History.only, stamp, Happening.only?, h.clock, h.documents]
    · have honly : (Event.invalidate name other : Event ε α ρ).only? keys key = none :=
        if_neg heq
      rw [Event.isolated_of_none honly]
      refine ⟨h.invalidate_of_ne name heq, ?_⟩
      simp [history, records, History.only, stamp, Happening.only?, heq]
  | clear name =>
    refine ⟨h.change name .clear (AgedCache.clear_only owners key), ?_⟩
    simp [Event.isolated, Event.only?, history, records, History.only, stamp, Happening.only?,
      h.clock, h.documents]
  | pass length =>
    exact ⟨⟨congrArg (· + length) h.clock, h.documents, h.caches, h.callers⟩, rfl⟩
  | publish url document =>
    exact ⟨⟨h.clock, congrArg (Keyed.put url document) h.documents, h.caches, h.callers⟩, rfl⟩
  | withdraw url =>
    exact ⟨⟨h.clock, congrArg (Keyed.erase · url) h.documents, h.caches, h.callers⟩, rfl⟩

/-- The computations that a cache has started are those of the whole run that come first. -/
theorem prefix_keys_run (documents : Documents) (cache : String)
    (first last : List (Event ε α ρ)) :
    (((opened documents).run first).1.caches.named cache).keys <+:
      (((opened documents).run (first ++ last)).1.caches.named cache).keys := by
  have hkeys (events : List (Event ε α ρ)) :
      (((opened documents).run events).1.caches.named cache).keys =
        (((opened documents).history events).starts cache).map Prod.fst := by
    rw [← stamps_run, AgedCache.stamps, List.map_map]
    rfl
  rw [hkeys, hkeys, history_append, History.starts_append, List.map_append]
  exact List.prefix_append _ _

/-- A run with one key alone goes on as the whole run does. -/
theorem follows_run (documents : Documents) (key : String) {cache : String}
    {gets : List (Get ε α ρ)} {owners : List String} {events : List (Event ε α ρ)}
    (asked : Event.started events <+: gets.map (Get.caller cache))
    (started : (((opened documents).run events).1.caches.named cache).keys <+: owners) :
    Follows cache key (gets.map Get.key) owners ((opened documents).run events).1
        ((opened documents).run (Event.isolated (gets.map Get.key) key events)).1 ∧
      (opened documents).history (Event.isolated (gets.map Get.key) key events) =
        ((opened documents).history events).only (gets.map Get.key) owners key := by
  induction events using List.reverseRecOn with
  | nil =>
    refine ⟨⟨rfl, rfl, rfl, ?_⟩, rfl⟩
    simp [run, Event.isolated, opened, share_nil_right]
  | append_singleton earlier event ih =>
    have hasked : Event.started earlier <+: gets.map (Get.caller cache) := by
      rw [Event.started_append] at asked
      exact (List.prefix_append _ _).trans asked
    have hstarted := (prefix_keys_run documents cache earlier [event]).trans started
    obtain ⟨hfollows, hhistory⟩ := ih hasked hstarted
    have hstarts (caller : Caller ε α ρ) (h : event = .start caller) :
        ∃ get : Get ε α ρ, caller = get.caller cache ∧
          (gets.map Get.key)[((opened documents).run earlier).1.callers.length]? =
            some get.key := by
      apply Get.exists_of_started asked
      rw [h, length_callers_run, Event.started_append,
        List.getElem?_append_right (Nat.le_refl _), Nat.sub_self]
      rfl
    rw [run_append] at started
    obtain ⟨hnext, hrecords⟩ :=
      hfollows.step (seeks_run documents hasked) event hstarts started
    rw [Event.isolated_append, run_append, run_append, history_append, history_append, hhistory,
      hrecords]
    refine ⟨hnext, ?_⟩
    simp only [History.only, List.filterMap_append, history, List.append_nil]

theorem Follows.result (h : Follows cache key keys owners whole alone)
    (held : keys[id]? = some key) :
    alone.callers[rank keys key id]?.bind Slot.result? = whole.callers[id]?.bind Slot.result? := by
  have hslot := h.slot held
  rw [hslot, Option.bind_map]
  congr 1
  funext slot
  exact slot.result?_renumbered _

theorem completion?_of_result {result : ρ}
    (h : whole.callers[id]?.bind Slot.result? = some result) (events : List (Event ε α ρ)) :
    whole.completion? id events = some (whole.clock, result) := by
  cases events with
  | nil => rw [completion?, h, Option.map_some]
  | cons event rest => simp only [completion?, h]

theorem completion?_cons (h : whole.callers[id]?.bind Slot.result? = none) (event : Event ε α ρ)
    (rest : List (Event ε α ρ)) :
    whole.completion? id (event :: rest) = (whole.step event).1.completion? id rest := by
  simp only [completion?, h]

/-- If one run goes on as the other, callers for the key come to the same at the same moment. -/
theorem completion?_isolated {documents : Documents} {events : List (Event ε α ρ)}
    (follows : ∀ before after, events = before ++ after →
      Follows cache key keys owners ((opened documents).run before).1
        ((opened documents).run (Event.isolated keys key before)).1)
    (held : keys[id]? = some key) {before rest : List (Event ε α ρ)}
    (h : events = before ++ rest) :
    ((opened documents).run (Event.isolated keys key before)).1.completion? (rank keys key id)
        (Event.isolated keys key rest) =
      ((opened documents).run before).1.completion? id rest := by
  induction rest generalizing before with
  | nil =>
    have hnow := follows before [] h
    have hnone : Event.isolated keys key ([] : List (Event ε α ρ)) = [] := rfl
    rw [hnone, completion?, completion?, hnow.result held, hnow.clock]
  | cons event rest ih =>
    have hnow := follows before (event :: rest) h
    cases hresult : ((opened documents).run before).1.callers[id]?.bind Slot.result? with
    | some result =>
      rw [completion?_of_result hresult, completion?_of_result ((hnow.result held).trans hresult),
        hnow.clock]
    | none =>
      have hthen : events = (before ++ [event]) ++ rest := by rw [h, List.append_assoc]; rfl
      have hrest := ih hthen
      have hsplit : event :: rest = [event] ++ rest := rfl
      rw [completion?_cons hresult, hsplit, Event.isolated_append]
      rw [Event.isolated_append, run_append, run_append] at hrest
      -- the event may concern another key, and then nothing happens for this one
      cases honly : event.only? keys key with
      | none =>
        rw [Event.isolated_of_none honly] at hrest ⊢
        exact hrest
      | some next =>
        rw [Event.isolated_of_some honly] at hrest ⊢
        rw [List.singleton_append, completion?_cons ((hnow.result held).trans hresult)]
        exact hrest

/-- What is left of a run when everything is left out that is done for other keys, told by those who
look keys up and the events of the whole run. -/
structure Isolated (documents : Documents) (cache key : String) (gets : List (Get ε α ρ))
    (events : List (Event ε α ρ)) (keys owners : List String) : Prop where
  /-- Nobody is started but those who look the key up. -/
  started : Event.started (Event.isolated keys key events) =
    (gets.filter (·.key = key)).map (Get.caller cache)
  /-- After every part of the run it is the same moment, the cache holds the same for the key, and
  the callers for the key have come to the same. -/
  follows : ∀ before after, events = before ++ after →
    Follows cache key keys owners ((opened documents).run before).1
      ((opened documents).run (Event.isolated keys key before)).1
  /-- The same has happened for the key, at the same moments: the same lookups have started a
  computation, and the same documents were asked for. -/
  history : ∀ before after, events = before ++ after →
    (opened documents).history (Event.isolated keys key before) =
      ((opened documents).history before).only keys owners key
  /-- After every part of the run the key has an entry in both or in neither. -/
  entry : ∀ before after, events = before ++ after →
    ((((opened documents).run (Event.isolated keys key before)).1.caches.named
      cache).entries.find? key).isSome =
    ((((opened documents).run before).1.caches.named cache).entries.find? key).isSome
  /-- Every caller for the key comes to the same result at the same moment, or to none. -/
  completion : ∀ id, keys[id]? = some key →
    (opened documents).completion? (rank keys key id) (Event.isolated keys key events) =
      (opened documents).completion? id events

/-- Who is started when there is one key alone. -/
theorem started_isolated (keys : List String) (key : String) (events : List (Event ε α ρ)) :
    Event.started (Event.isolated keys key events) =
      (Event.started events).filter (·.key? = some key) := by
  rw [Event.started, Event.isolated, List.filterMap_filterMap, Event.started,
    ← List.filterMap_eq_filter, List.filterMap_filterMap]
  congr 1
  funext event
  cases event with
  | start caller =>
    simp only [Event.only?]
    by_cases hkey : caller.key? = some key <;> simp [hkey, Option.guard]
  | poll id | drop id =>
    simp only [Event.only?]
    split <;> rfl
  | invalidate name other =>
    simp only [Event.only?]
    split <;> rfl
  | pass | publish | withdraw | clear => rfl

/-- In every run of those who look keys up in a cache each key is isolated from the others. -/
theorem isolation (documents : Documents) {cache : String} {gets : List (Get ε α ρ)}
    {events : List (Event ε α ρ)} (asked : Event.started events = gets.map (Get.caller cache))
    (key : String) :
    Isolated documents cache key gets events (gets.map Get.key)
      (((opened documents).run events).1.caches.named cache).keys := by
  have hasked (before after : List (Event ε α ρ)) (h : events = before ++ after) :
      Event.started before <+: gets.map (Get.caller cache) := by
    rw [h, Event.started_append] at asked
    exact ⟨Event.started after, asked⟩
  have hkeys (before after : List (Event ε α ρ)) (h : events = before ++ after) :
      (((opened documents).run before).1.caches.named cache).keys <+:
        (((opened documents).run events).1.caches.named cache).keys := by
    rw [h]
    exact prefix_keys_run documents cache before after
  have hrun (before after : List (Event ε α ρ)) (h : events = before ++ after) :=
    follows_run documents key (hasked before after h) (hkeys before after h)
  have hfollows (before after : List (Event ε α ρ)) (h : events = before ++ after) :=
    (hrun before after h).1
  have hwhole : events = [] ++ events := rfl
  refine ⟨?_, hfollows, fun before after h => (hrun before after h).2, fun before after h => ?_,
    fun id held => completion?_isolated hfollows held hwhole⟩
  · rw [started_isolated, asked, List.filter_map]
    congr 1
    refine List.filter_congr fun get _ => ?_
    simp [Get.caller, Caller.key?]
  · rw [(hfollows before after h).caches, AgedCache.find?_entries_only, Option.isSome_map]

/-- The entry of a key is replaced while a computation for another key runs, which fails later. -/
theorem isolation_replaced :
    let get (key : String) (result : Except String Nat) : Get String Nat Bool :=
      ⟨key, ⟨5, by decide⟩, .delay 10 (.done result), Except.isOk⟩
    let gets := [get "other" (.error "no"), get "key" (.ok 7), get "key" (.error "no")]
    let first : List (Event String Nat Bool) :=
      gets.map (.start <| ·.caller "cache") ++ [.poll 0, .poll 1, .pass 6, .poll 2]
    let last : List (Event String Nat Bool) := [.pass 4, .poll 0, .poll 1, .pass 6, .poll 2]
    let keys := gets.map Get.key
    let whole := ((opened []).run first).1.caches.named "cache"
    let alone := ((opened []).run (Event.isolated keys "key" first)).1.caches.named "cache"
    whole.entries.find? "key" = some 2 ∧ alone.entries.find? "key" = some 1 ∧
      (opened []).completion? 1 (first ++ last) = some (10, true) ∧
      (opened []).completion? 2 (first ++ last) = some (16, false) ∧
      Isolated [] "cache" "key" gets (first ++ last) keys
        (((opened []).run (first ++ last)).1.caches.named "cache").keys := by
  intro get gets first last keys whole alone
  have hentries : whole.entries.find? "key" = some 2 ∧ alone.entries.find? "key" = some 1 := by
    decide +kernel
  have hcompletions : (opened []).completion? 1 (first ++ last) = some (10, true) ∧
      (opened []).completion? 2 (first ++ last) = some (16, false) := by
    decide +kernel
  exact ⟨hentries.1, hentries.2, hcompletions.1, hcompletions.2, isolation [] rfl "key"⟩

end Pipeline

end RelyingParty
