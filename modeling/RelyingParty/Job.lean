import RelyingParty.Metrics
import RelyingParty.Provider.Documents

/-!
# Jobs

A computation that waits, asks for documents and counts on its way to a result. A job does nothing
by itself: it goes on when it is polled, as far as it comes at that moment. How long it waits is
fixed when it comes to the wait, so that time passes for it while nobody polls it.
-/

namespace RelyingParty

/-- A computation with a result. -/
inductive Job (α : Type) where
  /-- The computation is over. -/
  | done (result : α)
  /-- Waits some nanoseconds from when it comes to this. -/
  | delay (length : Nat) (next : Job α)
  /-- Waits until a moment. -/
  | sleeping (wake : Nat) (next : Job α)
  /-- Asks for the document at a URL. -/
  | request (url : String) (next : Except RetrievalError String → Job α)
  /-- Counts something. -/
  | record (metric : Metric) (next : Job α)

/-- What a job does that can be seen. -/
inductive Job.Effect where
  /-- It asks for the document at a URL. -/
  | requested (url : String)
  /-- It counts something. -/
  | recorded (metric : Metric)
deriving DecidableEq, Repr

namespace Job

variable {α : Type}

/-- The result, if the job is over. -/
def result? : Job α → Option α
  | done result => some result
  | _ => none

/-- The moment until which the job waits, if it does. -/
def wake? : Job α → Option Nat
  | sleeping wake _ => some wake
  | _ => none

/-- Goes on with a job as far as it comes at the moment `now`, with the documents of that moment.
Gives what is left of it and what it did. -/
def poll (now : Nat) (documents : Documents) : Job α → Job α × List Effect
  | done result => (done result, [])
  | delay length next =>
    if length = 0 then next.poll now documents else (sleeping (now + length) next, [])
  | sleeping wake next =>
    if wake ≤ now then next.poll now documents else (sleeping wake next, [])
  | request url next =>
    let document := documents.document url
    let result := document.answer.result url
    if document.delay = 0 then
      let (left, seen) := (next result).poll now documents
      (left, .requested url :: seen)
    else (sleeping (now + document.delay) (next result), [.requested url])
  | record metric next =>
    let (left, seen) := next.poll now documents
    (left, .recorded metric :: seen)

/-- The result of a job and what it does on its way, when each document is as `retrieve` says. -/
def complete (retrieve : String → Except RetrievalError String) : Job α → α × List Effect
  | done result => (result, [])
  | delay _ next => next.complete retrieve
  | sleeping _ next => next.complete retrieve
  | request url next =>
    let (result, seen) := (next (retrieve url)).complete retrieve
    (result, .requested url :: seen)
  | record metric next =>
    let (result, seen) := next.complete retrieve
    (result, .recorded metric :: seen)

end Job

end RelyingParty
