import RelyingParty.Algorithm
import RelyingParty.Duration
import RelyingParty.Text.Blank

/-!
# Requirements

What an ID token has to satisfy. Requirements are stated once by algorithm, issuer and audience and
then amended; of several amendments of one kind the last counts. The issuer and the audience may
not be blank, and a nonce or organization that is blank is not required at all.
-/

namespace RelyingParty

open Text

/-- What is stated about a token before it is checked for blank texts. -/
structure Statement where
  /-- The algorithm of the signature. -/
  algorithm : Algorithm
  /-- The issuer. -/
  issuer : String
  /-- The audience. -/
  audience : String
  /-- The nonce of the authentication request. -/
  nonce : Option String := none
  /-- How long ago the user may have been authenticated. -/
  maxAge : Option Duration := none
  /-- How far clocks may differ. -/
  leeway : Duration := .ofSeconds 60
  /-- The organization, by identifier or by name. -/
  organization : Option String := none
deriving DecidableEq, Repr

/-- One amendment of a statement. -/
inductive Amendment where
  /-- Requires a nonce. -/
  | nonce (value : String)
  /-- Requires an authentication within a duration. -/
  | maxAge (value : Duration)
  /-- Sets how far clocks may differ. -/
  | leeway (value : Duration)
  /-- Requires an organization. -/
  | organization (value : String)
deriving DecidableEq, Repr

/-- A text that may not be blank is. -/
inductive RequirementsError where
  /-- The issuer is blank. -/
  | blankIssuer
  /-- The audience is blank. -/
  | blankAudience
deriving DecidableEq, Repr

/-- The error in words. -/
def RequirementsError.message : RequirementsError → String
  | blankIssuer => "issuer is required and must not be blank"
  | blankAudience => "audience is required and must not be blank"

/-- What an ID token has to satisfy. -/
structure Requirements where
  /-- The algorithm of the signature. -/
  algorithm : Algorithm
  /-- The issuer, which `iss` has to equal. -/
  issuer : String
  /-- The audience, which has to be one of `aud`. -/
  audience : String
  /-- The nonce, which `nonce` has to equal. -/
  nonce : Option String
  /-- How long ago `auth_time` may be. -/
  maxAge : Option Duration
  /-- How far clocks may differ. -/
  leeway : Duration
  /-- The organization, which `org_id` or `org_name` has to name. -/
  organization : Option String
  /-- The issuer is not blank. -/
  issuer_nonBlank : isBlank issuer = false
  /-- The audience is not blank. -/
  audience_nonBlank : isBlank audience = false
  /-- A required nonce is not blank. -/
  nonce_nonBlank : ∀ value, nonce = some value → isBlank value = false
  /-- A required organization is not blank. -/
  organization_nonBlank : ∀ value, organization = some value → isBlank value = false

namespace Statement

/-- The statement with one more amendment. -/
def amend (statement : Statement) : Amendment → Statement
  | .nonce value => { statement with nonce := some value }
  | .maxAge value => { statement with maxAge := some value }
  | .leeway value => { statement with leeway := value }
  | .organization value => { statement with organization := some value }

/-- The statement with amendments, in order. -/
def amendAll (statement : Statement) (amendments : List Amendment) : Statement :=
  amendments.foldl amend statement

theorem nonBlank_of_bind {text : Option String} (value : String)
    (h : text.bind nonBlank? = some value) : isBlank value = false := by
  obtain ⟨found, _, h⟩ := Option.bind_eq_some_iff.1 h
  obtain ⟨blank, rfl⟩ := nonBlank?_eq_some_iff.1 h
  exact blank

/-- The requirements that are stated, unless the issuer or the audience is blank. -/
def build (statement : Statement) : Except RequirementsError Requirements :=
  if hi : isBlank statement.issuer = true then .error .blankIssuer
  else if ha : isBlank statement.audience = true then .error .blankAudience
  else .ok {
    algorithm := statement.algorithm
    issuer := statement.issuer
    audience := statement.audience
    nonce := statement.nonce.bind nonBlank?
    maxAge := statement.maxAge
    leeway := statement.leeway
    organization := statement.organization.bind nonBlank?
    issuer_nonBlank := by simpa using hi
    audience_nonBlank := by simpa using ha
    nonce_nonBlank := nonBlank_of_bind
    organization_nonBlank := nonBlank_of_bind }

end Statement

end RelyingParty
