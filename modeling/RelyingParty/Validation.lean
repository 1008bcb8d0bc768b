import RelyingParty.Caller
import RelyingParty.ClaimCheck
import RelyingParty.Provider.Fetch
import RelyingParty.Retry
import RelyingParty.Settings
import RelyingParty.Token.Decode

/-!
# Validating ID tokens

A token is validated in one go: its signature under the one algorithm that is required, with the
client secret or with a key that the issuer publishes, and then its claims. When the issuer's keys
lack the one that the token names, they are looked up once more, and then have to be younger. Every
validation is counted by its outcome when it is over.
-/

namespace RelyingParty

open Text

/-- What a validation comes to. -/
abbrev Validated := Except ValidationError Token

/-- One who looks up keys in caches. -/
abbrev KeyCaller (ρ : Type) := Caller ValidationError KeySet ρ

/-- One who validates tokens. -/
structure Validator where
  /-- The settings. -/
  settings : Settings
  /-- The name of the cache in which keys are looked up. -/
  cache : String
deriving DecidableEq, Repr

/-- A token and what it is to satisfy. -/
structure Presentation where
  /-- What the token is to satisfy. -/
  requirements : Requirements
  /-- The token. -/
  token : String
  /-- The client secret, if there is one. -/
  secret : Option String
  /-- The time of the validation, in seconds since the epoch. -/
  now : Int

namespace Validator

/-- The rejection of a token that is not there. -/
def missingToken : ValidationError := .decode "ID token is required but missing."

/-- The rejection of a token that cannot be checked without a secret. -/
def missingSecret : ValidationError :=
  .decode "A client secret is required to verify an HS256 ID token but none was provided."

/-- The secret to check a token with. -/
def usableSecret (secret : Option String) : Except ValidationError String :=
  match secret.bind nonBlank? with
  | some secret => .ok secret
  | none => .error missingSecret

/-- Checks the claims of a token whose signature is valid. -/
def checked (presentation : Presentation) (token : Token) : Validated :=
  match ClaimCheck.assert presentation.requirements token presentation.now with
  | .ok () => .ok token
  | .error fault => .error (.claim fault.claim fault.message)

/-- Validates a token with the client secret. -/
def symmetric (presentation : Presentation) : Validated := do
  let secret ← usableSecret presentation.secret
  checked presentation (← Token.decode (.symmetric secret) presentation.token)

/-- Validates a token with given keys. -/
def asymmetric (presentation : Presentation) (keys : KeySet) : Validated := do
  checked presentation (← Token.decode (.asymmetric keys) presentation.token)

/-- Looks up the keys of the issuer, at most `window` old, and validates a token with them. When the
key that the token names is not among them, `retry` says whether they are looked up again. -/
def lookUp {ρ : Type} (cache : String) (presentation : Presentation)
    (next : Validated → KeyCaller ρ) (retry : Retry) (window : Duration) : KeyCaller ρ :=
  let issuer := presentation.requirements.issuer
  .lookup cache issuer window (Provider.fetch issuer) fun _ found =>
    match found with
    | .error error => next (.error error)
    | .ok keys =>
      match asymmetric presentation keys with
      | .error (.keyNotFound kid) =>
        match _h : retry.afterMiss? with
        | some again => lookUp cache presentation next again again.window
        | none => next (.error (.keyNotFound kid))
      | result => next result
termination_by retry.left
decreasing_by exact Retry.left_lt_of_afterMiss? _h

/-- Validates a token and goes on with the outcome. -/
def verify {ρ : Type} (validator : Validator) (presentation : Presentation)
    (next : Validated → KeyCaller ρ) : KeyCaller ρ :=
  if isBlank presentation.token then next (.error missingToken)
  else
    match presentation.requirements.algorithm with
    | .hs256 => next (symmetric presentation)
    | .rs256 =>
      lookUp validator.cache presentation next (.first validator.settings.keySetRefreshMaxAge)
        validator.settings.keySetMaxAge

/-- The word under which the outcome of a validation is counted. -/
def status : Validated → String
  | .ok _ => Metric.success
  | .error error => error.kind

/-- Validates a token and counts the outcome. -/
def assert {ρ : Type} (validator : Validator) (presentation : Presentation)
    (next : Validated → ρ) : KeyCaller ρ :=
  validator.verify presentation fun result =>
    .record .duration <|
      .record (.validation presentation.requirements.algorithm (status result)) <|
        .done (next result)

end Validator

end RelyingParty
