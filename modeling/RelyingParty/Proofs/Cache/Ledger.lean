import RelyingParty.Proofs.Cache.Change

/-!
# Caches and their histories

What a cache holds can be read off the history of the run: which computations it has started, when
and for which keys, and which of them has the entry of each key. Every lookup is decided by what
happened before it, and only the computation that has an entry can lose it.
-/

namespace RelyingParty

variable {ε α ρ : Type}

/-- The cache in which something happened, if it happened in one. -/
def Happening.cache? : Happening → Option String
  | .observed _ (.lookedUp lookup) => some lookup.cache
  | .observed _ (.evicted cache _ _) => some cache
  | .observed _ _ => none
  | .invalidated cache _ => some cache
  | .cleared cache => some cache

namespace Record

theorem start?_eq_none {name : String} {record : Record}
    (h : record.happening.cache? ≠ some name) : record.start? name = none := by
  unfold start?
  split
  · next lookup heq =>
    rw [heq] at h
    simp_all [Happening.cache?]
  · rfl

theorem becomes?_eq_none {name : String} (key : String) {record : Record}
    (h : record.happening.cache? ≠ some name) : record.becomes? name key = none := by
  unfold becomes?
  split <;> simp_all [Happening.cache?]

/-- Only a lookup that starts a computation gives an entry to it. -/
theorem becomes?_eq_some_some {name key : String} {id : Nat} {record : Record}
    (h : record.becomes? name key = some (some id)) :
    ∃ caller window,
      record.happening = .observed caller (.lookedUp ⟨name, key, window, id, true⟩) := by
  obtain ⟨clock, documents, happening⟩ := record
  cases happening with
  | observed caller observation =>
    cases observation with
    | lookedUp lookup =>
      obtain ⟨cache, other, window, found, isNew⟩ := lookup
      simp only [becomes?, Option.ite_none_right_eq_some, Option.some.injEq] at h
      obtain ⟨⟨rfl, rfl, rfl⟩, rfl⟩ := h
      exact ⟨caller, window, rfl⟩
    | evicted | requested | recorded => simp [becomes?] at h
  | invalidated | cleared => simp [becomes?] at h

end Record

namespace History

theorem starts_append (first last : History) (name : String) :
    starts (first ++ last) name = first.starts name ++ last.starts name :=
  List.filterMap_append

theorem starts_singleton (record : Record) (name : String) :
    starts [record] name = (record.start? name).toList := by
  cases h : record.start? name <;> simp [starts, h]

/-- What happens elsewhere starts no computation. -/
theorem starts_of_foreign {history : History} {name : String}
    (foreign : ∀ record ∈ history, record.happening.cache? ≠ some name) :
    history.starts name = [] :=
  List.filterMap_eq_nil_iff.mpr fun record h => Record.start?_eq_none (foreign record h)

theorem holder?_append_singleton (history : History) (record : Record) (name key : String) :
    holder? (history ++ [record]) name key =
      (record.becomes? name key).getD (history.holder? name key) := by
  unfold holder?
  rw [List.filterMap_append, List.getLast?_append]
  cases h : record.becomes? name key with
  | none => simp [h]
  | some entry => simp [h]

/-- What does not change the entry of a key leaves it to the computation that has it. -/
theorem holder?_append_of_unchanged {history last : History} {name key : String}
    (unchanged : ∀ record ∈ last, record.becomes? name key = none) :
    holder? (history ++ last) name key = history.holder? name key := by
  unfold holder?
  rw [List.filterMap_append, List.filterMap_eq_nil_iff.mpr unchanged, List.append_nil]

/-- The number of the computation that a lookup finds, if one is young enough. -/
def fresh? (history : History) (now : Nat) (name key : String) (window : Duration) : Option Nat :=
  (history.holder? name key).bind fun id => (history.starts name)[id]?.bind fun stamp =>
    if now - stamp.2 ≤ window.total then some id else none

/-- Every record stands in some relation to what happened before it. -/
def Every (relation : History → Record → Prop) (history : History) : Prop :=
  ∀ before record after, history = before ++ record :: after → relation before record

theorem every_nil (relation : History → Record → Prop) : Every relation [] := by
  intro before record after h
  simp at h

theorem Every.append_singleton {relation : History → Record → Prop} {history : History}
    {record : Record} (h : history.Every relation) (last : relation history record) :
    Every relation (history ++ [record]) := by
  intro before other after heq
  rcases List.eq_nil_or_concat after with rfl | ⟨rest, final, rfl⟩
  · obtain ⟨rfl, hlast⟩ := List.append_inj' heq rfl
    obtain rfl := List.singleton_inj.mp hlast
    exact last
  · have hsplit : history ++ [record] = (before ++ other :: rest) ++ [final] := by
      simpa using heq
    exact h before other rest (List.append_inj' hsplit rfl).1

theorem Every.append {relation : History → Record → Prop} {history last : History}
    (h : history.Every relation) (hlast : ∀ record ∈ last, ∀ before, relation before record) :
    Every relation (history ++ last) := by
  induction last generalizing history with
  | nil => simpa using h
  | cons record rest ih =>
    have hfirst := h.append_singleton (hlast record List.mem_cons_self history)
    have hrest := ih hfirst fun other hother => hlast other (List.mem_cons_of_mem _ hother)
    simpa using hrest

theorem Every.of_append {relation : History → Record → Prop} {first last : History}
    (h : Every relation (first ++ last)) : first.Every relation := by
  intro before record after heq
  exact h before record (after ++ last) (by rw [heq, List.append_assoc, List.cons_append])

end History

/-- A lookup is decided, and an entry is lost, by what happened before. -/
def Record.Justified (before : History) (record : Record) : Prop :=
  match record.happening with
  | .observed _ (.lookedUp lookup) =>
    let fresh := before.fresh? record.clock lookup.cache lookup.key lookup.window
    lookup.isNew = fresh.isNone ∧ lookup.id = fresh.getD (before.starts lookup.cache).length
  | .observed _ (.evicted cache key id) => before.holder? cache key = some id
  | _ => True

/-- What a cache holds is what the history tells. -/
structure AgedCache.Recorded (cache : AgedCache ε α) (name : String) (history : History) :
    Prop where
  /-- The computations are those that were started. -/
  stamps : cache.stamps = history.starts name
  /-- Each entry belongs to the computation that was given it last. -/
  entries : ∀ key, cache.entries.find? key = history.holder? name key

namespace AgedCache

variable {cache next : AgedCache ε α} {name : String} {history : History} {now : Nat}
  {documents : Documents} {happenings : List Happening}

theorem Recorded.fresh?_eq (h : cache.Recorded name history) (now : Nat) (key : String)
    (window : Duration) : cache.fresh? now key window = history.fresh? now name key window := by
  rw [AgedCache.fresh?_eq, h.entries, h.stamps, History.fresh?]

/-- What is seen while a computation goes on happens in no cache. -/
theorem cache?_effect (caller : Nat) (effect : Job.Effect) :
    (Happening.observed caller effect.observation).cache? = none := by
  cases effect <;> rfl

/-- What a change adds to the history happens in the cache that changes, or in none. -/
theorem Change.cache? (h : cache.Change now documents name happenings next)
    {happening : Happening} (member : happening ∈ happenings) :
    happening.cache? = some name ∨ happening.cache? = none := by
  cases h with
  | lookup | invalidate | clear =>
    obtain rfl := List.mem_singleton.mp member
    exact Or.inl rfl
  | poll =>
    obtain ⟨effect, _, rfl⟩ := List.mem_map.mp member
    exact Or.inr (cache?_effect _ effect)
  | evict =>
    rcases List.mem_append.mp member with heffect | hlast
    · obtain ⟨effect, _, rfl⟩ := List.mem_map.mp heffect
      exact Or.inr (cache?_effect _ effect)
    · obtain rfl := List.mem_singleton.mp hlast
      exact Or.inl rfl

/-- What happens elsewhere leaves a cache and its part of the history alone. -/
theorem Recorded.append (h : cache.Recorded name history) {last : History}
    (foreign : ∀ record ∈ last, record.happening.cache? ≠ some name) :
    cache.Recorded name (history ++ last) where
  stamps := by
    rw [History.starts_append, History.starts_of_foreign foreign, List.append_nil, h.stamps]
  entries key := by
    rw [h.entries, History.holder?_append_of_unchanged]
    intro record hrecord
    exact Record.becomes?_eq_none key (foreign record hrecord)

/-- A computation that goes on changes nothing that is told by the history. -/
theorem Recorded.poll (h : cache.Recorded name history) (now : Nat) (documents : Documents)
    (caller id : Nat) :
    (cache.poll now documents id).cache.Recorded name (history ++
      ((cache.poll now documents id).seen.map fun effect =>
        Happening.observed caller effect.observation).map (Record.mk now documents)) := by
  have hpolled : (cache.poll now documents id).cache.Recorded name history :=
    ⟨by rw [stamps_poll, h.stamps], fun key => by rw [entries_poll, h.entries]⟩
  apply hpolled.append
  intro record hrecord
  obtain ⟨happening, hhappening, rfl⟩ := List.mem_map.mp hrecord
  obtain ⟨effect, _, rfl⟩ := List.mem_map.mp hhappening
  simp [cache?_effect]

/-- When an entry is taken away, the history says so. -/
theorem Recorded.withoutEntry (h : cache.Recorded name history) {record : Record} {key : String}
    (quiet : record.start? name = none)
    (lost : ∀ other, record.becomes? name other = if key = other then some none else none) :
    (cache.invalidate key).Recorded name (history ++ [record]) where
  stamps := by
    rw [History.starts_append, History.starts_singleton, quiet, ← h.stamps]
    exact (List.append_nil _).symm
  entries other := by
    rw [History.holder?_append_singleton, lost, ← h.entries, invalidate, Keyed.find?_erase]
    by_cases hkey : key = other
    · simp [hkey]
    · simp [hkey, Ne.symm hkey]

/-- A change of a cache keeps it as the history tells. -/
theorem Recorded.change (h : cache.Recorded name history)
    (change : cache.Change now documents name happenings next) :
    next.Recorded name (history ++ happenings.map (Record.mk now documents)) := by
  cases change with
  | lookup caller key window job =>
    refine ⟨?_, fun other => ?_⟩
    · rw [stamps_lookup, h.stamps, List.map_singleton, History.starts_append,
        History.starts_singleton]
      simp only [Record.start?, true_and]
      split <;> rfl
    · rw [find?_entries_lookup, List.map_singleton, History.holder?_append_singleton, h.entries]
      simp only [Record.becomes?, true_and, eq_comm]
      split <;> simp_all
  | poll caller id => exact h.poll now documents caller id
  | evict caller key id failed held =>
    rw [List.map_append, ← List.append_assoc]
    refine (h.poll now documents caller id).withoutEntry rfl fun other => ?_
    simp [Record.becomes?]
  | invalidate key => exact h.withoutEntry rfl fun other => by simp [Record.becomes?]
  | clear =>
    refine ⟨?_, fun other => ?_⟩
    · rw [List.map_singleton, History.starts_append, History.starts_singleton, ← h.stamps]
      exact (List.append_nil _).symm
    · rw [List.map_singleton, History.holder?_append_singleton]
      simp [clear, Record.becomes?, Keyed.find?]

/-- What a change adds to the history follows from what happened before. -/
theorem Recorded.justified (h : cache.Recorded name history)
    (change : cache.Change now documents name happenings next)
    (justified : history.Every Record.Justified) :
    History.Every Record.Justified (history ++ happenings.map (Record.mk now documents)) := by
  have hpoll (caller id : Nat) : History.Every Record.Justified (history ++
      ((cache.poll now documents id).seen.map fun effect =>
        Happening.observed caller effect.observation).map (Record.mk now documents)) := by
    apply justified.append
    intro record hrecord before
    obtain ⟨happening, hhappening, rfl⟩ := List.mem_map.mp hrecord
    obtain ⟨effect, _, rfl⟩ := List.mem_map.mp hhappening
    cases effect <;> trivial
  cases change with
  | lookup caller key window job =>
    apply justified.append_singleton
    refine ⟨?_, ?_⟩
    · rw [isNew_lookup, h.fresh?_eq]
    · rw [id_lookup, h.fresh?_eq, h.stamps]
  | poll caller id => exact hpoll caller id
  | evict caller key id failed held =>
    rw [List.map_append, ← List.append_assoc]
    apply (hpoll caller id).append_singleton
    have hentry := (h.poll now documents caller id).entries key
    rw [entries_poll, held] at hentry
    exact hentry.symm
  | invalidate key => exact justified.append_singleton trivial
  | clear => exact justified.append_singleton trivial

end AgedCache

namespace Caches

variable {caches next : Caches ε α} {history : History} {now : Nat} {documents : Documents}
  {happenings : List Happening}

/-- A change keeps all caches as the history tells. -/
theorem Change.recorded (change : caches.Change now documents happenings next)
    (h : ∀ name, (caches.named name).Recorded name history) (name : String) :
    (next.named name).Recorded name (history ++ happenings.map (Record.mk now documents)) := by
  cases change with
  | none =>
    rw [List.map_nil, List.append_nil]
    exact h name
  | count caller metric =>
    refine (h name).append fun record hrecord => ?_
    obtain rfl := List.mem_singleton.mp hrecord
    simp [Happening.cache?]
  | @change other happenings cache hchange =>
    rw [named_put]
    by_cases hname : name = other
    · subst hname
      rw [if_pos rfl]
      exact (h name).change hchange
    · rw [if_neg hname]
      refine (h name).append fun record hrecord => ?_
      obtain ⟨happening, hhappening, rfl⟩ := List.mem_map.mp hrecord
      rcases hchange.cache? hhappening with hcache | hcache <;> simp [hcache, Ne.symm hname]

/-- What a change adds to the history follows from what happened before. -/
theorem Change.justified (change : caches.Change now documents happenings next)
    (h : ∀ name, (caches.named name).Recorded name history)
    (justified : history.Every Record.Justified) :
    History.Every Record.Justified (history ++ happenings.map (Record.mk now documents)) := by
  cases change with
  | none =>
    rw [List.map_nil, List.append_nil]
    exact justified
  | count caller metric => exact justified.append_singleton trivial
  | change hchange => exact (h _).justified hchange justified

end Caches

namespace Chronicle

/-- The caches hold what the history tells, and the history is in order. -/
structure Booked (chronicle : Chronicle ε α ρ) : Prop where
  /-- Every cache holds what the history tells. -/
  recorded : ∀ name, (chronicle.pipeline.caches.named name).Recorded name chronicle.history
  /-- Every record follows from what happened before. -/
  justified : chronicle.history.Every Record.Justified
  /-- The records are in the order of their moments. -/
  ordered : chronicle.history.Pairwise fun earlier later => earlier.clock ≤ later.clock
  /-- Nothing lies in the future. -/
  past : ∀ record ∈ chronicle.history, record.clock ≤ chronicle.pipeline.clock

theorem booked_opened (documents : Documents) :
    (opened documents : Chronicle ε α ρ).Booked where
  recorded _ := ⟨rfl, fun _ => rfl⟩
  justified := History.every_nil _
  ordered := List.Pairwise.nil
  past _ h := absurd h List.not_mem_nil

/-- Every move keeps the caches and the history in step. -/
theorem Booked.move {allowed : Event ε α ρ → Prop} {before after : Chronicle ε α ρ}
    (h : before.Booked) (move : Move allowed before after) : after.Booked := by
  obtain ⟨happenings, hchange, hhistory, hclock⟩ := move.change
  have hnow : ∀ record ∈ happenings.map before.pipeline.stamp,
      record.clock = before.pipeline.clock := by
    intro record hrecord
    obtain ⟨happening, _, rfl⟩ := List.mem_map.mp hrecord
    rfl
  refine ⟨?_, ?_, ?_, ?_⟩
  · intro name
    rw [hhistory]
    exact hchange.recorded h.recorded name
  · rw [hhistory]
    exact hchange.justified h.recorded h.justified
  · rw [hhistory, List.pairwise_append]
    refine ⟨h.ordered, ?_, ?_⟩
    · rw [List.pairwise_map]
      exact List.pairwise_of_forall fun _ _ => Nat.le_refl _
    · intro earlier hearlier later hlater
      rw [hnow later hlater]
      exact h.past earlier hearlier
  · intro record hrecord
    rw [hhistory, List.mem_append] at hrecord
    rcases hrecord with hold | hnew
    · exact Nat.le_trans (h.past record hold) hclock
    · rw [hnow record hnew]
      exact hclock

/-- After every run the caches hold what the history tells. -/
theorem booked_extend (documents : Documents) (events : List (Event ε α ρ)) :
    ((opened documents).extend events).Booked :=
  invariant_run documents (booked_opened documents) Booked.move events fun _ _ => trivial

end Chronicle

/-- After every run a cache holds the computations that the run has started in it. -/
theorem Pipeline.stamps_run (documents : Documents) (events : List (Event ε α ρ))
    (cache : String) :
    (((opened documents).run events).1.caches.named cache).stamps =
      ((opened documents).history events).starts cache :=
  ((Chronicle.booked_extend documents events).recorded cache).stamps

end RelyingParty
