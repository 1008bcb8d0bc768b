import RelyingParty.Provider.Retrieval
import RelyingParty.Text.Utf8

/-!
# Responses

An answer over HTTP and the document in it. The status comes first, then the length that the answer
declares for its body, then the body as it arrives, chunk by chunk. As soon as a chunk would take
the body beyond the limit the document is refused, whatever may come after it, and a body that ends
too early is refused before its characters are looked at.
-/

namespace RelyingParty

open Text

/-- An answer over HTTP. -/
structure Response where
  /-- The status code. -/
  status : Nat
  /-- The length that the answer declares for its body. -/
  declared : Option Nat
  /-- The parts of the body, in the order in which they arrive. -/
  chunks : List Bytes
  /-- Whether the body arrives to its end, or reading fails after the last chunk. -/
  isComplete : Bool
deriving DecidableEq, Repr

namespace Response

/-- An answer that declares the length of its body, of which the last `missing` bytes do not
arrive. -/
def sized (status : Nat) (body : Bytes) (missing : Nat) : Response :=
  ⟨status, some (body.length + missing), [body], missing == 0⟩

/-- An answer whose body arrives in chunks without a declared length. -/
def chunked (status : Nat) (chunks : List Bytes) (isComplete : Bool) : Response :=
  ⟨status, none, chunks, isComplete⟩

/-- An answer with a status that never has a body. -/
def bodiless (status : Nat) : Response := ⟨status, some 0, [], true⟩

/-- Whether a status stands for success. -/
def isSuccess (response : Response) : Bool :=
  200 ≤ response.status && response.status < 300

/-- Appends chunks to a body of at most `limit` bytes, as long as it does not grow beyond. -/
def gather (limit : Nat) (body : Bytes) : List Bytes → Option Bytes
  | [] => some body
  | chunk :: rest =>
    if limit < body.length + chunk.length then none else gather limit (body ++ chunk) rest

/-- Whether the declared length is beyond a limit. -/
def declaresTooMuch (limit : Nat) (response : Response) : Bool :=
  match response.declared with
  | some length => limit < length
  | none => false

/-- The text of a body, or the fault that it is not UTF-8. -/
def textOf (url : String) (body : Bytes) : Except RetrievalError String :=
  match Utf8.decode body with
  | .ok text => .ok text
  | .error fault => .error (.transport url ("response is not UTF-8: " ++ fault.message))

/-- The document in the answer to a request for `url`, of at most `limit` bytes. -/
def document (url : String) (limit : Nat) (response : Response) :
    Except RetrievalError String :=
  if !response.isSuccess then .error (.status url response.status)
  else if response.declaresTooMuch limit then .error (.tooLarge url limit)
  else
    match gather limit [] response.chunks with
    | none => .error (.tooLarge url limit)
    | some body =>
      if !response.isComplete then
        .error (.transport url "failed to read response: error decoding response body")
      else textOf url body

end Response

end RelyingParty
