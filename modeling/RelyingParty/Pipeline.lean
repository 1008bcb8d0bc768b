import RelyingParty.Caller

/-!
# Runs

A clock, the documents that are to be had, caches, and callers that share them. A run is a sequence
of events in any order: callers are started, polled and dropped, time passes, documents appear and
disappear, entries are taken away. Callers are known by number, in the order of their starts.
-/

namespace RelyingParty

/-- A caller that was started. -/
inductive Slot (ε α ρ : Type) where
  /-- It is not over. -/
  | running (caller : Caller ε α ρ)
  /-- It is over. -/
  | finished (result : ρ)
  /-- It was dropped before it was over. -/
  | dropped

/-- The state of a run. -/
structure Pipeline (ε α ρ : Type) where
  /-- The nanoseconds since the run began. -/
  clock : Nat := 0
  /-- The documents that are to be had. -/
  documents : Documents := []
  /-- The caches that have been used. -/
  caches : Caches ε α := []
  /-- The callers, each at the place of its number. -/
  callers : List (Slot ε α ρ) := []

/-- What may happen to a pipeline. -/
inductive Event (ε α ρ : Type) where
  /-- A caller starts; it does nothing yet. -/
  | start (caller : Caller ε α ρ)
  /-- A caller is polled. -/
  | poll (id : Nat)
  /-- A caller is dropped. -/
  | drop (id : Nat)
  /-- Time passes. -/
  | pass (length : Nat)
  /-- A document appears, in the place of another at the same URL. -/
  | publish (url : String) (document : Document)
  /-- A document disappears. -/
  | withdraw (url : String)
  /-- The entry of a key is taken away. -/
  | invalidate (cache key : String)
  /-- All entries of a cache are taken away. -/
  | clear (cache : String)

namespace Pipeline

variable {ε α ρ : Type}

/-- The state after a caller has been polled, if it is running, and what happened. -/
def pollCaller (pipeline : Pipeline ε α ρ) (id : Nat) : Pipeline ε α ρ × List Observation :=
  match pipeline.callers[id]? with
  | some (.running caller) =>
    let polled := caller.poll pipeline.clock pipeline.documents pipeline.caches
    let slot : Slot ε α ρ :=
      match polled.caller.result? with
      | some result => .finished result
      | none => .running polled.caller
    let callers := pipeline.callers.set id slot
    ({ pipeline with caches := polled.caches, callers }, polled.seen)
  | _ => (pipeline, [])

/-- The state after a caller has been dropped, if it was running. -/
def dropCaller (pipeline : Pipeline ε α ρ) (id : Nat) : Pipeline ε α ρ :=
  match pipeline.callers[id]? with
  | some (.running _) => { pipeline with callers := pipeline.callers.set id .dropped }
  | _ => pipeline

/-- The state after a cache has changed. -/
def changeCache (pipeline : Pipeline ε α ρ) (name : String)
    (change : AgedCache ε α → AgedCache ε α) : Pipeline ε α ρ :=
  { pipeline with caches := Keyed.put name (change (pipeline.caches.named name)) pipeline.caches }

/-- The state after an event, and what happened. -/
def step (pipeline : Pipeline ε α ρ) : Event ε α ρ → Pipeline ε α ρ × List Observation
  | .start caller => ({ pipeline with callers := pipeline.callers ++ [.running caller] }, [])
  | .poll id => pipeline.pollCaller id
  | .drop id => (pipeline.dropCaller id, [])
  | .pass length => ({ pipeline with clock := pipeline.clock + length }, [])
  | .publish url document =>
    ({ pipeline with documents := Keyed.put url document pipeline.documents }, [])
  | .withdraw url => ({ pipeline with documents := pipeline.documents.erase url }, [])
  | .invalidate cache key => (pipeline.changeCache cache (·.invalidate key), [])
  | .clear cache => (pipeline.changeCache cache .clear, [])

/-- The state after some events, and what happened. -/
def run (pipeline : Pipeline ε α ρ) : List (Event ε α ρ) → Pipeline ε α ρ × List Observation
  | [] => (pipeline, [])
  | event :: rest =>
    let (next, seen) := pipeline.step event
    let (last, later) := next.run rest
    (last, seen ++ later)

end Pipeline

end RelyingParty
