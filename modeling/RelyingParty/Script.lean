import RelyingParty.Schedule

/-!
# Scripts

Commands to a pipeline, one after the other. A command may start a caller and wait until it is done,
or give it a name and let it run beside the commands that follow, to be joined later. After each
command everything that can go on has gone on.
-/

namespace RelyingParty

/-- A pipeline and the named callers that have not been joined. -/
structure Script (ε α ρ : Type) where
  /-- The pipeline. -/
  pipeline : Pipeline ε α ρ := {}
  /-- The numbers of the named callers. -/
  names : Keyed Nat := []

/-- A command. -/
inductive Command (ε α ρ : Type) where
  /-- Starts a caller and waits until it is done. -/
  | call (caller : Caller ε α ρ)
  /-- Starts a caller under a name. -/
  | spawn (name : String) (caller : Caller ε α ρ)
  /-- Waits until a named caller is done. -/
  | join (name : String)
  /-- Drops a named caller. -/
  | abort (name : String)
  /-- Lets time pass. -/
  | advance (length : Nat)
  /-- Lets an event happen. -/
  | change (event : Event ε α ρ)

/-- What a command comes to. -/
inductive Outcome (ρ : Type) where
  /-- Nothing to tell. -/
  | nothing
  /-- A caller has been started. -/
  | spawned
  /-- A caller is done. -/
  | finished (result : ρ)
  /-- A caller was dropped before it was done. -/
  | cancelled

namespace Script

variable {ε α ρ : Type}

/-- A state, an outcome and what happened. -/
structure Performed (ε α ρ : Type) where
  /-- The state afterwards. -/
  script : Script ε α ρ
  /-- What the command came to. -/
  outcome : Outcome ρ
  /-- What happened. -/
  seen : List Observation

/-- What has become of a caller. -/
def outcomeOf (pipeline : Pipeline ε α ρ) (id : Nat) : Outcome ρ :=
  match pipeline.callers[id]? with
  | some (.finished result) => .finished result
  | _ => .cancelled

/-- Starts a caller and polls all callers. Gives the number of the new one. -/
def launch (script : Script ε α ρ) (caller : Caller ε α ρ) :
    Nat × Pipeline ε α ρ × List Observation :=
  let started := (script.pipeline.run [.start caller]).1
  (script.pipeline.callers.length, started.after [] 0)

/-- Waits until a caller is done, which waits at most `waits` times. Whenever callers can go on,
those in `first` do so first. -/
def wait (first : List Nat) (waits : Nat) (script : Script ε α ρ) (id : Nat) : Performed ε α ρ :=
  let (pipeline, seen) := script.pipeline.finish first id waits
  ⟨{ script with pipeline }, outcomeOf pipeline id, seen⟩

/-- The state after a command, what it came to, and what happened. A caller waits at most `waits`
times, and one that is called goes on before those that were given names. -/
def perform (waits : Nat) (script : Script ε α ρ) : Command ε α ρ → Performed ε α ρ
  | .call caller =>
    let (id, pipeline, seen) := script.launch caller
    let waited := wait [id] waits { script with pipeline } id
    { waited with seen := seen ++ waited.seen }
  | .spawn name caller =>
    let (id, pipeline, seen) := script.launch caller
    ⟨⟨pipeline, Keyed.put name id script.names⟩, .spawned, seen⟩
  | .join name =>
    match script.names.find? name with
    | none => ⟨script, .cancelled, []⟩
    | some id => wait [] waits { script with names := script.names.erase name } id
  | .abort name =>
    match script.names.find? name with
    | none => ⟨script, .nothing, []⟩
    | some id =>
      let (pipeline, seen) := script.pipeline.run [.drop id]
      ⟨{ script with pipeline }, .nothing, seen⟩
  | .advance length =>
    let (pipeline, seen) := script.pipeline.advance [] (script.pipeline.clock + length)
    ⟨{ script with pipeline }, .nothing, seen⟩
  | .change event =>
    let (pipeline, seen) := script.pipeline.run [event]
    ⟨{ script with pipeline }, .nothing, seen⟩

/-- Whether a caller is still running. -/
def isRunning (pipeline : Pipeline ε α ρ) (id : Nat) : Bool :=
  match pipeline.callers[id]? with
  | some (.running _) => true
  | _ => false

/-- The names of the callers that are running and have not been joined, sorted. -/
def pending (script : Script ε α ρ) : List String :=
  let running := script.names.filter fun (_, id) => isRunning script.pipeline id
  (Keyed.names running).mergeSort fun a b => decide (a ≤ b)

end Script

end RelyingParty
