import RelyingParty.Provider.Response
import RelyingParty.Settings
import RelyingParty.Url.Parse

/-!
# HTTP clients

One who retrieves documents over HTTP, according to settings. The user agent has to be a legal
header value, and only URLs of HTTP that name a host are asked for. User and password in a URL are
sent apart from it. Redirections are not followed.
-/

namespace RelyingParty

/-- One who retrieves documents. -/
structure Client where
  /-- The user agent named in requests. -/
  userAgent : String
  /-- The greatest number of bytes in the body of an answer. -/
  limit : Nat
deriving DecidableEq, Repr

/-- A request as it is sent. -/
structure Request where
  /-- The path and the query asked for. -/
  target : String
  /-- The user agent. -/
  userAgent : String
deriving DecidableEq, Repr

/-- Why there is no validator with some settings. -/
inductive SetupError where
  /-- The settings contradict themselves. -/
  | settings (error : SettingsError)
  /-- There is no client with these settings. -/
  | client (error : RetrievalError)
deriving DecidableEq, Repr

namespace Client

/-- Whether a character may stand in a header value: no control character other than the tab. -/
def isHeaderChar (c : Char) : Bool :=
  c == '\t' || 0x20 ≤ c.toNat && c != '\x7F'

/-- The client with some settings. -/
def ofSettings (settings : Settings) : Except RetrievalError Client :=
  if settings.userAgent.toList.all isHeaderChar then
    .ok ⟨settings.userAgent, settings.maxResponseSize.toNat⟩
  else .error (.transport "" "failed to create HTTP client: builder error")

/-- Checks settings, and that there is a client with them. -/
def setUp (settings : Settings) : Except SetupError Client :=
  match settings.validate with
  | .error error => .error (.settings error)
  | .ok () =>
    match ofSettings settings with
    | .error error => .error (.client error)
    | .ok client => .ok client

/-- A URL without user and password. -/
def withoutUser (url : Url) : Url :=
  { url with authority := url.authority.map fun found => { found with user := "", password := "" } }

/-- The path and the query that are asked for. -/
def target (url : Url) : String :=
  url.path.text ++ url.tail.query.elim "" ("?" ++ ·)

/-- Whether documents are asked for at a URL. -/
def isSupported (url : Url) : Bool :=
  url.scheme == "http" || url.scheme == "https"

/-- The URL to be asked for, or why there is none. -/
def url? (text : String) : Except RetrievalError Url :=
  match Url.parse text with
  | .error _ => .error (.transport text "builder error")
  | .ok url =>
    let bare := withoutUser url
    if isSupported url then .ok bare
    else .error (.transport text ("builder error for url (" ++ bare.text ++ ")"))

/-- Retrieves the document at a URL from a server, which may not answer at all. Gives the request
too, if it could be sent. -/
def get (client : Client) (text : String) (server : Option Response) :
    Except RetrievalError String × Option Request :=
  match url? text with
  | .error error => (.error error, none)
  | .ok url =>
    match server with
    | none =>
      (.error (.transport text ("error sending request for url (" ++ url.text ++ ")")), none)
    | some response =>
      (response.document text client.limit, some ⟨target url, client.userAgent⟩)

end Client

end RelyingParty
