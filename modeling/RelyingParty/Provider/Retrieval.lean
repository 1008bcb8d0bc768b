/-!
# Retrieval faults

Why a document could not be retrieved. Every fault names the URL as it was asked for.
-/

namespace RelyingParty

/-- Why a document could not be retrieved. -/
inductive RetrievalError where
  /-- The request could not be sent, or its answer could not be read. -/
  | transport (url reason : String)
  /-- The server answered with another status than success. -/
  | status (url : String) (code : Nat)
  /-- The body has more bytes than allowed. -/
  | tooLarge (url : String) (limit : Nat)
deriving DecidableEq, Repr

namespace RetrievalError

/-- The word for the kind of fault. -/
def kind : RetrievalError → String
  | transport _ _ => "transport"
  | status _ _ => "status"
  | tooLarge _ _ => "too_large"

/-- The fault in words. -/
def message : RetrievalError → String
  | transport url reason => "request to " ++ url ++ " failed: " ++ reason
  | status url code => url ++ " returned HTTP " ++ toString code
  | tooLarge url limit => "response from " ++ url ++ " exceeds " ++ toString limit ++ " bytes"

end RetrievalError

end RelyingParty
