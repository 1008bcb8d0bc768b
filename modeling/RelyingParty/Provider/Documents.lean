import RelyingParty.Keyed
import RelyingParty.Provider.Retrieval

/-!
# Documents

The documents that are to be had at a moment, by URL, with the time that each takes to arrive. What
arrives is decided when the request is made. At a URL without a document the answer is the status
404, at once.
-/

namespace RelyingParty

/-- What comes back when a document is asked for. -/
inductive Answer where
  /-- A text. -/
  | body (text : String)
  /-- The request fails on its way. -/
  | transport (reason : String)
  /-- The document has more bytes than allowed. -/
  | tooLarge (limit : Nat)
  /-- Another status than success. -/
  | status (code : Nat)
deriving DecidableEq, Repr

/-- What retrieving `url` comes to with an answer. -/
def Answer.result (url : String) : Answer → Except RetrievalError String
  | body text => .ok text
  | transport reason => .error (.transport url reason)
  | tooLarge limit => .error (.tooLarge url limit)
  | status code => .error (.status url code)

/-- A document that can be asked for. -/
structure Document where
  /-- What comes back. -/
  answer : Answer
  /-- How long that takes, in nanoseconds. -/
  delay : Nat
deriving DecidableEq, Repr

/-- The document at a URL where there is none. -/
def Document.absent : Document := ⟨.status 404, 0⟩

/-- Documents by URL. -/
abbrev Documents := Keyed Document

/-- The document at a URL. -/
def Documents.document (documents : Documents) (url : String) : Document :=
  (documents.find? url).getD .absent

/-- What retrieving each URL comes to. -/
def Documents.retrieve (documents : Documents) (url : String) : Except RetrievalError String :=
  (documents.document url).answer.result url

end RelyingParty
