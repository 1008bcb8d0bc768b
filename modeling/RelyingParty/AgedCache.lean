import RelyingParty.Duration
import RelyingParty.Job

/-!
# Aged caches

A cache keeps for each key the computation of a value, not the value. Whoever looks a key up while
its computation is running waits for that computation, and how old an entry may be is said anew with
each lookup: an entry that is too old makes way for a new computation. Every computation that was
ever started keeps its place and is known by its number, because others may still wait for it after
it has lost its entry. A computation goes on only while it is polled; one that has failed loses its
entry when somebody who waited for it sees that, and only if the entry is still its own.
-/

namespace RelyingParty

/-- A computation that was started for a key. -/
structure Computation (ε α : Type) where
  /-- The key that it was started for. -/
  key : String
  /-- When it was started. -/
  since : Nat
  /-- What is left of it. -/
  job : Job (Except ε α)

/-- The computations that were started and the entries of the keys. -/
structure AgedCache (ε α : Type) where
  /-- All computations, each at the place of its number. -/
  computations : List (Computation ε α) := []
  /-- For each key that has an entry, the number of its computation. -/
  entries : Keyed Nat := []

namespace AgedCache

variable {ε α : Type}

/-- A cache that nothing has been looked up in. -/
def empty : AgedCache ε α := {}

/-- The number of the computation that has the entry of a key, unless it is older than `window` at
the moment `now`. -/
def fresh? (cache : AgedCache ε α) (now : Nat) (key : String) (window : Duration) : Option Nat := do
  let id ← cache.entries.find? key
  let computation ← cache.computations[id]?
  if now - computation.since ≤ window.total then some id else none

/-- The cache with a new computation in the entry of a key. -/
def install (cache : AgedCache ε α) (now : Nat) (key : String) (job : Job (Except ε α)) :
    AgedCache ε α where
  computations := cache.computations ++ [⟨key, now, job⟩]
  entries := Keyed.put key cache.computations.length cache.entries

/-- What a lookup finds. -/
structure Found (ε α : Type) where
  /-- The cache after the lookup. -/
  cache : AgedCache ε α
  /-- The number of the computation to wait for. -/
  id : Nat
  /-- Whether the lookup has started it. -/
  isNew : Bool

/-- Looks a key up at the moment `now`: finds the computation in its entry if that is at most
`window` old, and otherwise starts a new one. -/
def lookup (cache : AgedCache ε α) (now : Nat) (key : String) (window : Duration)
    (job : Job (Except ε α)) : Found ε α :=
  match cache.fresh? now key window with
  | some id => ⟨cache, id, false⟩
  | none => ⟨cache.install now key job, cache.computations.length, true⟩

/-- The cache after one of its computations went on to `job`. -/
def update (cache : AgedCache ε α) (id : Nat) (job : Job (Except ε α)) : AgedCache ε α :=
  { cache with
    computations := cache.computations.modify id fun computation => { computation with job } }

/-- The cache without the entry of a key, if a given computation has it. -/
def evict (cache : AgedCache ε α) (key : String) (id : Nat) : AgedCache ε α :=
  if cache.entries.find? key = some id then { cache with entries := cache.entries.erase key }
  else cache

/-- The cache without the entry of a key. -/
def invalidate (cache : AgedCache ε α) (key : String) : AgedCache ε α :=
  { cache with entries := cache.entries.erase key }

/-- The cache without entries. -/
def clear (cache : AgedCache ε α) : AgedCache ε α :=
  { cache with entries := [] }

/-- The number of keys that have an entry. -/
def size (cache : AgedCache ε α) : Nat := cache.entries.length

/-- The number of entries in words. -/
def text (cache : AgedCache ε α) : String :=
  "AsyncAgedCache \x7b entries: " ++ toString cache.size ++ " \x7d"

/-- What polling a computation comes to. -/
structure Polled (ε α : Type) where
  /-- The cache afterwards. -/
  cache : AgedCache ε α
  /-- The result, if the computation is over. -/
  result : Option (Except ε α)
  /-- What the computation did. -/
  seen : List Job.Effect

/-- Polls a computation at the moment `now`. -/
def poll (cache : AgedCache ε α) (now : Nat) (documents : Documents) (id : Nat) : Polled ε α :=
  match cache.computations[id]? with
  | none => ⟨cache, none, []⟩
  | some computation =>
    let (job, seen) := computation.job.poll now documents
    ⟨cache.update id job, job.result?, seen⟩

end AgedCache

end RelyingParty
