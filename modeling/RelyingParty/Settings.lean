import RelyingParty.Duration
import RelyingParty.Json.Printer

/-!
# Settings

How long fetched keys are trusted and how documents are retrieved. A settings document may leave out
any member, which then has its default value, and may hold members that mean nothing here.
-/

namespace RelyingParty

open Json

/-- The settings of a validator. -/
structure Settings where
  /-- How long a fetched key set is used before it is fetched again. -/
  keySetMaxAge : Duration := .ofSeconds 600
  /-- How old a key set may be when it lacks the key of a token and is not fetched again. -/
  keySetRefreshMaxAge : Duration := .ofSeconds 5
  /-- How long a request may take. -/
  requestTimeout : Duration := .ofSeconds 10
  /-- The greatest number of bytes in a response body. -/
  maxResponseSize : UInt64 := 65536
  /-- The user agent named in requests. -/
  userAgent : String := "oidc-idtoken/0.1.0"
deriving DecidableEq, Repr

/-- Settings that contradict themselves. -/
inductive SettingsError where
  /-- The window after a missing key is longer than the normal one. -/
  | refreshWindowTooLong (normal refresh : Duration)
  /-- A member that has to be positive is zero. -/
  | zero (member : String)
deriving DecidableEq, Repr

/-- The error in words. -/
def SettingsError.message : SettingsError → String
  | refreshWindowTooLong normal refresh =>
    "key_set_refresh_max_age (" ++ refresh.text ++ ") must not exceed key_set_max_age (" ++
      normal.text ++ ")"
  | zero member => member ++ " must be greater than zero"

namespace Settings

/-- The settings of a document without members. -/
def default : Settings := {}

/-- Checks that the settings do not contradict themselves. -/
def validate (settings : Settings) : Except SettingsError Unit :=
  if settings.keySetMaxAge.total < settings.keySetRefreshMaxAge.total then
    .error (.refreshWindowTooLong settings.keySetMaxAge settings.keySetRefreshMaxAge)
  else if settings.requestTimeout.isZero then .error (.zero "request_timeout")
  else if settings.maxResponseSize = 0 then .error (.zero "max_response_size")
  else .ok ()

/-- The members of the settings document, all of them. -/
def toMembers (settings : Settings) : Members :=
  [("key_set_max_age", settings.keySetMaxAge.toJson),
   ("key_set_refresh_max_age", settings.keySetRefreshMaxAge.toJson),
   ("request_timeout", settings.requestTimeout.toJson),
   ("max_response_size", .number (.whole settings.maxResponseSize.toNat)),
   ("user_agent", .string settings.userAgent)]

/-- The settings document. -/
def print (settings : Settings) : String := (Value.object settings.toMembers).print

/-- The members of a settings document that have been read. -/
structure Draft where
  /-- See `Settings.keySetMaxAge`. -/
  keySetMaxAge : Option Duration := none
  /-- See `Settings.keySetRefreshMaxAge`. -/
  keySetRefreshMaxAge : Option Duration := none
  /-- See `Settings.requestTimeout`. -/
  requestTimeout : Option Duration := none
  /-- See `Settings.maxResponseSize`. -/
  maxResponseSize : Option UInt64 := none
  /-- See `Settings.userAgent`. -/
  userAgent : Option String := none

/-- The settings, with defaults for what the document leaves out. -/
def Draft.complete (draft : Draft) : Settings where
  keySetMaxAge := draft.keySetMaxAge.getD default.keySetMaxAge
  keySetRefreshMaxAge := draft.keySetRefreshMaxAge.getD default.keySetRefreshMaxAge
  requestTimeout := draft.requestTimeout.getD default.requestTimeout
  maxResponseSize := draft.maxResponseSize.getD default.maxResponseSize
  userAgent := draft.userAgent.getD default.userAgent

/-- Reads a size in bytes. -/
def readSize : Reader UInt64 := do
  return UInt64.ofNat (← Reader.unsigned (UInt64.size - 1) "usize")

/-- Reads a text. -/
def readText : Reader String := Reader.string "a string"

/-- Reads a member. -/
def readMember (name : String) (draft : Draft) : Reader Draft := do
  if name = "key_set_max_age" then
    return { draft with keySetMaxAge := ← Reader.field name draft.keySetMaxAge Duration.read }
  else if name = "key_set_refresh_max_age" then
    let age ← Reader.field name draft.keySetRefreshMaxAge Duration.read
    return { draft with keySetRefreshMaxAge := age }
  else if name = "request_timeout" then
    return { draft with requestTimeout := ← Reader.field name draft.requestTimeout Duration.read }
  else if name = "max_response_size" then
    return { draft with maxResponseSize := ← Reader.field name draft.maxResponseSize readSize }
  else if name = "user_agent" then
    return { draft with userAgent := ← Reader.field name draft.userAgent readText }
  else
    Reader.ignored
    return draft

/-- Reads the array of the members' values; those at its end may be left out. -/
def readSequence : Reader Settings := do
  let some keySetMaxAge ← Reader.item? true Duration.read
    | return Draft.complete {}
  let draft : Draft := { keySetMaxAge := some keySetMaxAge }
  let some keySetRefreshMaxAge ← Reader.item? false Duration.read
    | return draft.complete
  let draft := { draft with keySetRefreshMaxAge := some keySetRefreshMaxAge }
  let some requestTimeout ← Reader.item? false Duration.read
    | return draft.complete
  let draft := { draft with requestTimeout := some requestTimeout }
  let some maxResponseSize ← Reader.item? false readSize
    | return draft.complete
  let draft := { draft with maxResponseSize := some maxResponseSize }
  let some userAgent ← Reader.item? false readText
    | return draft.complete
  return { draft with userAgent := some userAgent }.complete

/-- Reads settings. -/
def read : Reader Settings :=
  Reader.record "struct ValidatorConfig" {} readMember (fun draft => .ok draft.complete)
    readSequence

/-- The settings that a document holds. -/
def ofDocument (document : String) : Except Fault Settings :=
  readWith read (Text.Utf8.encode document)

end Settings

end RelyingParty
