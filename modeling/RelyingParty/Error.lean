import RelyingParty.Algorithm

/-!
# Validation errors

The ways an ID token can be rejected. Each has a kind, which outcomes are counted by, and a message.
-/

namespace RelyingParty

/-- The claims that are checked. -/
inductive Claim where
  /-- The issuer. -/
  | iss
  /-- The subject. -/
  | sub
  /-- The audience. -/
  | aud
  /-- The expiration time. -/
  | exp
  /-- The time of issue. -/
  | iat
  /-- The nonce. -/
  | nonce
  /-- The authorized party. -/
  | azp
  /-- The time of authentication. -/
  | authTime
  /-- The identifier of the organization. -/
  | orgId
  /-- The name of the organization. -/
  | orgName
deriving DecidableEq, Repr

namespace Claim

/-- The name of the claim in a token. -/
def name : Claim → String
  | iss => "iss"
  | sub => "sub"
  | aud => "aud"
  | exp => "exp"
  | iat => "iat"
  | nonce => "nonce"
  | azp => "azp"
  | authTime => "auth_time"
  | orgId => "org_id"
  | orgName => "org_name"

/-- The claim in words. -/
def title : Claim → String
  | iss => "Issuer"
  | sub => "Subject"
  | aud => "Audience"
  | exp => "Expiration Time"
  | iat => "Issued At"
  | nonce => "Nonce"
  | azp => "Authorized Party"
  | authTime => "Authentication Time"
  | orgId => "Organization Id"
  | orgName => "Organization Name"

/-- All claims that are checked. -/
def all : List Claim := [iss, sub, aud, exp, iat, nonce, azp, authTime, orgId, orgName]

/-- The claim with a name. -/
def ofName? (name : String) : Option Claim := all.find? (·.name == name)

end Claim

/-- Why an ID token is rejected. -/
inductive ValidationError where
  /-- The token, or the secret to check it with, is missing or not readable. -/
  | decode (text : String)
  /-- The token names another algorithm than the one required. -/
  | unsupportedAlgorithm (expected found : String)
  /-- The signature is not that of the token. -/
  | invalidSignature
  /-- The issuer publishes no key with the identifier that the token names. -/
  | keyNotFound (kid : Option String)
  /-- A claim is missing or wrong. -/
  | claim (claim : Claim) (text : String)
  /-- The keys of the issuer could not be fetched, read or used. -/
  | keyRetrieval (text : String)
deriving DecidableEq, Repr

namespace ValidationError

/-- The word for the kind of error. -/
def kind : ValidationError → String
  | decode _ => "decode"
  | unsupportedAlgorithm _ _ => "unsupported_algorithm"
  | invalidSignature => "invalid_signature"
  | keyNotFound _ => "key_not_found"
  | claim _ _ => "claim"
  | keyRetrieval _ => "key_retrieval"

/-- The error in words. -/
def message : ValidationError → String
  | decode text => text
  | unsupportedAlgorithm expected found =>
    "Signature algorithm of \"" ++ found ++
      "\" is not supported. Expected the ID token to be signed with \"" ++ expected ++ "\"."
  | invalidSignature => "Invalid ID token signature."
  | keyNotFound kid =>
    "Unable to find a signing key that matches kid \"" ++ kid.getD "" ++ "\"."
  | claim _ text => text
  | keyRetrieval text => "Unable to retrieve the signing keys: " ++ text

/-- The claim that was missing or wrong. -/
def claim? : ValidationError → Option Claim
  | claim c _ => some c
  | _ => none

/-- Whether another look at the issuer's keys may help. -/
def isKeyNotFound : ValidationError → Bool
  | keyNotFound _ => true
  | _ => false

end ValidationError

end RelyingParty
