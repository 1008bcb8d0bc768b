import RelyingParty.AgedCache

/-!
# Callers

What someone does who looks keys up in caches: one lookup after the other, waiting for what each
finds, up to a result. A caller goes on when it is polled, and polls the computation that it waits
for. When it sees that computation fail it takes the entry away before it goes on.
-/

namespace RelyingParty

/-- A sequence of lookups with a result. -/
inductive Caller (ε α ρ : Type) where
  /-- The caller is done. -/
  | done (result : ρ)
  /-- Counts something. -/
  | record (metric : Metric) (next : Caller ε α ρ)
  /-- Looks a key up in a cache, with the job for a new computation, and goes on with the number and
  the result of the computation found. -/
  | lookup (cache key : String) (window : Duration) (job : Job (Except ε α))
    (next : Nat → Except ε α → Caller ε α ρ)
  /-- Waits for a computation that was found for a key. -/
  | awaiting (cache key : String) (id : Nat) (next : Nat → Except ε α → Caller ε α ρ)

/-- A lookup as it went. -/
structure Lookup where
  /-- The cache. -/
  cache : String
  /-- The key. -/
  key : String
  /-- How old the entry was allowed to be. -/
  window : Duration
  /-- The number of the computation found. -/
  id : Nat
  /-- Whether the lookup started it. -/
  isNew : Bool
deriving DecidableEq, Repr

/-- Something that happened. -/
inductive Observation where
  /-- A key was looked up. -/
  | lookedUp (lookup : Lookup)
  /-- A document was asked for. -/
  | requested (url : String)
  /-- Something was counted. -/
  | recorded (metric : Metric)
  /-- A computation that had failed lost the entry of its key. -/
  | evicted (cache key : String) (id : Nat)
deriving DecidableEq, Repr

/-- What a job did, as something that happened. -/
def Job.Effect.observation : Job.Effect → Observation
  | requested url => .requested url
  | recorded metric => .recorded metric

/-- Caches by name. -/
abbrev Caches (ε α : Type) := Keyed (AgedCache ε α)

namespace Caches

variable {ε α : Type}

/-- The cache with a name; one that has not been used yet is empty. -/
def named (caches : Caches ε α) (name : String) : AgedCache ε α :=
  (caches.find? name).getD .empty

/-- What waiting for a computation comes to. -/
structure Awaited (ε α : Type) where
  /-- The caches afterwards. -/
  caches : Caches ε α
  /-- The result, if the computation is over. -/
  result : Option (Except ε α)
  /-- What happened. -/
  seen : List Observation

/-- Polls a computation that someone waits for. If it has failed it loses the entry of its key. -/
def await (caches : Caches ε α) (now : Nat) (documents : Documents) (name key : String)
    (id : Nat) : Awaited ε α :=
  let polled := (caches.named name).poll now documents id
  let seen := polled.seen.map Job.Effect.observation
  match polled.result with
  | some (.error fault) =>
    let evicted : List Observation :=
      if polled.cache.entries.find? key = some id then [.evicted name key id] else []
    ⟨Keyed.put name (polled.cache.evict key id) caches, some (.error fault), seen ++ evicted⟩
  | result => ⟨Keyed.put name polled.cache caches, result, seen⟩

end Caches

namespace Caller

variable {ε α ρ : Type}

/-- The result, if the caller is done. -/
def result? : Caller ε α ρ → Option ρ
  | done result => some result
  | _ => none

/-- What polling a caller comes to. -/
structure Polled (ε α ρ : Type) where
  /-- The caches afterwards. -/
  caches : Caches ε α
  /-- What is left for the caller to do. -/
  caller : Caller ε α ρ
  /-- What happened. -/
  seen : List Observation

/-- The same with something that happened before. -/
def Polled.after (polled : Polled ε α ρ) (earlier : List Observation) : Polled ε α ρ :=
  { polled with seen := earlier ++ polled.seen }

/-- Goes on with a caller as far as it comes at the moment `now`. -/
def poll (now : Nat) (documents : Documents) (caches : Caches ε α) :
    Caller ε α ρ → Polled ε α ρ
  | done result => ⟨caches, done result, []⟩
  | record metric next => (next.poll now documents caches).after [.recorded metric]
  | lookup name key window job next =>
    let found := (caches.named name).lookup now key window job
    let awaited := Caches.await (Keyed.put name found.cache caches) now documents name key found.id
    let seen := .lookedUp ⟨name, key, window, found.id, found.isNew⟩ :: awaited.seen
    match awaited.result with
    | some result => ((next found.id result).poll now documents awaited.caches).after seen
    | none => ⟨awaited.caches, awaiting name key found.id next, seen⟩
  | awaiting name key id next =>
    let awaited := caches.await now documents name key id
    match awaited.result with
    | some result => ((next id result).poll now documents awaited.caches).after awaited.seen
    | none => ⟨awaited.caches, awaiting name key id next, awaited.seen⟩

/-- The moment until which the computation waits that a caller waits for. -/
def wake? (caches : Caches ε α) : Caller ε α ρ → Option Nat
  | awaiting name _ id _ => ((caches.named name).computations[id]?).bind (·.job.wake?)
  | _ => none

end Caller

end RelyingParty
