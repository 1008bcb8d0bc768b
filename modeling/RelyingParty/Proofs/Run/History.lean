import RelyingParty.Pipeline

/-!
# Histories

What happened in a run, in order: what was observed while callers were polled, and which entries
were taken away from outside. A record keeps the moment at which something happened and the
documents that were to be had at that moment. From a history alone one can tell which computations
a cache has started and which of them has the entry of a key.
-/

namespace RelyingParty

/-- Something that happened in a run. -/
inductive Happening where
  /-- Something was observed while a caller was polled. -/
  | observed (caller : Nat) (observation : Observation)
  /-- The entry of a key was taken away. -/
  | invalidated (cache key : String)
  /-- All entries of a cache were taken away. -/
  | cleared (cache : String)
deriving DecidableEq, Repr

/-- Something that happened, and when. -/
structure Record where
  /-- The moment. -/
  clock : Nat
  /-- The documents that were to be had. -/
  documents : Documents
  /-- What happened. -/
  happening : Happening
deriving DecidableEq, Repr

/-- What happened in a run, in order. -/
abbrev History := List Record

namespace Record

/-- What was observed, if something was. -/
def observation? (record : Record) : Option Observation :=
  match record.happening with
  | .observed _ observation => some observation
  | _ => none

/-- The lookup that a caller made, if this is one. -/
def lookupBy? (caller : Nat) (record : Record) : Option Lookup :=
  match record.happening with
  | .observed other (.lookedUp lookup) => if other = caller then some lookup else none
  | _ => none

/-- The key and the moment of a computation that a cache started, if this is a start. -/
def start? (cache : String) (record : Record) : Option (String × Nat) :=
  match record.happening with
  | .observed _ (.lookedUp lookup) =>
    if lookup.cache = cache ∧ lookup.isNew = true then some (lookup.key, record.clock) else none
  | _ => none

/-- What the entry of a key becomes, if it changes: nothing, or the number of a computation. -/
def becomes? (cache key : String) (record : Record) : Option (Option Nat) :=
  match record.happening with
  | .observed _ (.lookedUp lookup) =>
    if lookup.cache = cache ∧ lookup.key = key ∧ lookup.isNew = true then some (some lookup.id)
    else none
  | .observed _ (.evicted other lost _) =>
    if other = cache ∧ lost = key then some none else none
  | .observed _ _ => none
  | .invalidated other lost => if other = cache ∧ lost = key then some none else none
  | .cleared other => if other = cache then some none else none

/-- The URL that was asked for and what came of it, if a document was. -/
def asked? (record : Record) : Option (String × Except RetrievalError String) :=
  match record.happening with
  | .observed _ (.requested url) => some (url, record.documents.retrieve url)
  | _ => none

end Record

namespace History

/-- The lookups that a caller made. -/
def lookupsBy (history : History) (caller : Nat) : List Lookup :=
  history.filterMap (Record.lookupBy? caller)

/-- The keys and the moments of the computations that a cache started, in order. -/
def starts (history : History) (cache : String) : List (String × Nat) :=
  history.filterMap (Record.start? cache)

/-- The number of the computation that has the entry of a key. -/
def holder? (history : History) (cache key : String) : Option Nat :=
  (history.filterMap (Record.becomes? cache key)).getLast?.join

/-- The documents that were asked for, with what came of it. -/
def asked (history : History) : List (String × Except RetrievalError String) :=
  history.filterMap Record.asked?

end History

/-- The callers that events start, in order. -/
def Event.started {ε α ρ : Type} (events : List (Event ε α ρ)) : List (Caller ε α ρ) :=
  events.filterMap fun
    | .start caller => some caller
    | _ => none

theorem Event.started_append {ε α ρ : Type} (first last : List (Event ε α ρ)) :
    Event.started (first ++ last) = Event.started first ++ Event.started last :=
  List.filterMap_append

namespace Pipeline

variable {ε α ρ : Type}

/-- The state before a run: there is nothing but documents. -/
def opened (documents : Documents) : Pipeline ε α ρ := { documents }

/-- Something that happens at this moment. -/
def stamp (pipeline : Pipeline ε α ρ) (happening : Happening) : Record :=
  ⟨pipeline.clock, pipeline.documents, happening⟩

/-- What is recorded of an event. -/
def records (pipeline : Pipeline ε α ρ) : Event ε α ρ → History
  | .poll id =>
    (pipeline.pollCaller id).2.map fun observation => pipeline.stamp (.observed id observation)
  | .invalidate cache key => [pipeline.stamp (.invalidated cache key)]
  | .clear cache => [pipeline.stamp (.cleared cache)]
  | _ => []

/-- What is recorded of some events. -/
def history (pipeline : Pipeline ε α ρ) : List (Event ε α ρ) → History
  | [] => []
  | event :: rest => pipeline.records event ++ (pipeline.step event).1.history rest

/-- The history holds exactly what the run observed. -/
theorem observations_history (pipeline : Pipeline ε α ρ) (events : List (Event ε α ρ)) :
    (pipeline.history events).filterMap Record.observation? = (pipeline.run events).2 := by
  induction events generalizing pipeline with
  | nil => rfl
  | cons event rest ih =>
    have hevent : (pipeline.records event).filterMap Record.observation? =
        (pipeline.step event).2 := by
      cases event with
      | poll id =>
        simp only [records, step, List.filterMap_map]
        exact List.filterMap_some
      | _ => rfl
    simp only [history, run, List.filterMap_append, ih, hevent]

theorem history_append (pipeline : Pipeline ε α ρ) (first last : List (Event ε α ρ)) :
    pipeline.history (first ++ last) =
      pipeline.history first ++ (pipeline.run first).1.history last := by
  induction first generalizing pipeline with
  | nil => rfl
  | cons event rest ih => simp only [List.cons_append, history, run, ih, List.append_assoc]

end Pipeline

end RelyingParty
