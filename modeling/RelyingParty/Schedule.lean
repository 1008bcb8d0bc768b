import RelyingParty.Pipeline

/-!
# Schedules

Runs in which nobody waits longer than necessary: whenever something can go on it does, some chosen
callers first and the others in the order in which they started, and only then does time pass, up to
the next moment for which a caller waits. Each of them is a run in the sense of `Pipeline.run`.
-/

namespace RelyingParty

namespace Pipeline

variable {ε α ρ : Type}

/-- Polls of the callers in `first`, and then of all callers in the order of their starts. -/
def polls (first : List Nat) (pipeline : Pipeline ε α ρ) : List (Event ε α ρ) :=
  (first ++ List.range pipeline.callers.length).map .poll

/-- The state after some time has passed and all callers have been polled, and what happened. -/
def after (first : List Nat) (length : Nat) (pipeline : Pipeline ε α ρ) :
    Pipeline ε α ρ × List Observation :=
  pipeline.run (.pass length :: pipeline.polls first)

/-- The moment for which a caller waits, if it is running and waits for one. -/
def wake? (pipeline : Pipeline ε α ρ) (id : Nat) : Option Nat :=
  match pipeline.callers[id]? with
  | some (.running caller) => caller.wake? pipeline.caches
  | _ => none

/-- The first moment for which a caller waits. -/
def nextWake? (pipeline : Pipeline ε α ρ) : Option Nat :=
  ((List.range pipeline.callers.length).filterMap pipeline.wake?).min?

theorem clock_pollCaller (pipeline : Pipeline ε α ρ) (id : Nat) :
    (pipeline.pollCaller id).1.clock = pipeline.clock := by
  unfold pollCaller
  split <;> rfl

theorem clock_run_polls (pipeline : Pipeline ε α ρ) (ids : List Nat) :
    (pipeline.run (ids.map .poll)).1.clock = pipeline.clock := by
  induction ids generalizing pipeline with
  | nil => rfl
  | cons id rest ih =>
    simp only [List.map_cons, run, step]
    rw [ih, clock_pollCaller]

theorem clock_after (first : List Nat) (length : Nat) (pipeline : Pipeline ε α ρ) :
    (pipeline.after first length).1.clock = pipeline.clock + length := by
  simp only [after, run, step, polls]
  rw [clock_run_polls]

/-- The state at the moment `target`, and what happened until then. Callers go on at the moments for
which they wait, those that wait for the last moment included. -/
def advance (first : List Nat) (target : Nat) (pipeline : Pipeline ε α ρ) :
    Pipeline ε α ρ × List Observation :=
  match pipeline.nextWake? with
  | none => pipeline.run [.pass (target - pipeline.clock)]
  | some wake =>
    if pipeline.clock < wake ∧ wake ≤ target then
      let next := pipeline.after first (wake - pipeline.clock)
      let last := next.1.advance first target
      (last.1, next.2 ++ last.2)
    else pipeline.run [.pass (target - pipeline.clock)]
termination_by target - pipeline.clock
decreasing_by
  rw [clock_after]
  omega

/-- The state when a caller is done, or after it has waited `waits` times, and what happened until
then. -/
def finish (first : List Nat) (id : Nat) :
    Nat → Pipeline ε α ρ → Pipeline ε α ρ × List Observation
  | 0, pipeline => (pipeline, [])
  | waits + 1, pipeline =>
    match pipeline.wake? id with
    | none => (pipeline, [])
    | some wake =>
      let next := pipeline.advance first wake
      let last := finish first id waits next.1
      (last.1, next.2 ++ last.2)

end Pipeline

end RelyingParty
