import RelyingParty.Error
import RelyingParty.Job
import RelyingParty.KeySet
import RelyingParty.Provider.Metadata
import RelyingParty.Url.Parse

/-!
# Fetching keys

The keys of an issuer are found in two steps: the document in which the provider describes itself,
at a place that follows from the issuer, and the document that it names. The second is asked for at
the normal form of its URL. Whatever goes wrong on the way, the keys could not be retrieved.
-/

namespace RelyingParty

namespace Provider

/-- Where a provider describes itself, below its issuer. -/
def discoveryPath : String := "/.well-known/openid-configuration"

/-- A text without the slashes at its end. -/
def withoutSlashes (text : String) : String :=
  String.ofList (text.toList.reverse.dropWhile (· == '/')).reverse

/-- Where the provider describes itself that is an issuer. -/
def discoveryUrl (issuer : String) : String :=
  withoutSlashes issuer ++ discoveryPath

/-- What a fetch comes to. -/
abbrev Fetched := Except ValidationError KeySet

/-- Why the keys of an issuer could not be fetched. -/
inductive FetchError where
  /-- A document could not be retrieved. -/
  | retrieval (error : RetrievalError)
  /-- The document in which the provider describes itself is not well formed. -/
  | metadata (url : String) (fault : Json.Fault)
  /-- The provider does not say where its keys are. -/
  | keySetUri (uri : String) (fault : Url.Fault)
  /-- The document with the keys is not well formed. -/
  | keys (url : String) (fault : Json.Fault)
deriving DecidableEq, Repr

/-- The error in words. -/
def FetchError.message : FetchError → String
  | retrieval error => error.message
  | metadata url fault => "invalid OpenID configuration at " ++ url ++ ": " ++ fault.message
  | keySetUri uri fault =>
    "invalid jwks_uri \"" ++ uri ++ "\" in OpenID configuration: " ++ fault.message
  | keys url fault => "invalid key set at " ++ url ++ ": " ++ fault.message

/-- Where the keys are, after the document in which the provider describes itself. -/
def keySetUrl (url : String) (answer : Except RetrievalError String) : Except FetchError Url := do
  match answer with
  | .error error => .error (.retrieval error)
  | .ok body =>
    match Metadata.ofDocument body with
    | .error fault => .error (.metadata url fault)
    | .ok metadata =>
      match Url.parse metadata.keySetUri with
      | .error fault => .error (.keySetUri metadata.keySetUri fault)
      | .ok found => .ok found

/-- The keys of an issuer, after the document that holds them. -/
def keySet (issuer url : String) (answer : Except RetrievalError String) :
    Except FetchError KeySet := do
  match answer with
  | .error error => .error (.retrieval error)
  | .ok body =>
    match KeySet.keysOfDocument body with
    | .error fault => .error (.keys url fault)
    | .ok keys => .ok ⟨issuer, url, keys⟩

/-- What a fetch comes to, to one who asks for keys. -/
def fetched : Except FetchError KeySet → Fetched
  | .ok keys => .ok keys
  | .error error => .error (.keyRetrieval error.message)

/-- The end of a fetch, which is counted. -/
def concluded (result : Except FetchError KeySet) : Job Fetched :=
  .record (.fetch result.isOk) (.done (fetched result))

/-- Fetches the keys of an issuer. -/
def fetch (issuer : String) : Job Fetched :=
  .request (discoveryUrl issuer) fun answer =>
    match keySetUrl (discoveryUrl issuer) answer with
    | .error error => concluded (.error error)
    | .ok url => .request url.text fun answer => concluded (keySet issuer url.text answer)

/-- A fetch in words. -/
def fetchText : String := "KeySetFetcher \x7b .. \x7d"

end Provider

end RelyingParty
