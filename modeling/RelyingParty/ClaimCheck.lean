import RelyingParty.Error
import RelyingParty.Requirements
import RelyingParty.Text.Lowercase
import RelyingParty.Token

/-!
# Claim checks

Nine checks compare the claims of a verified token with the requirements, in a fixed order; the
first that fails decides. Times are whole seconds since the epoch, and a sum of times stops at the
ends of the signed 64-bit range. A token is expired at the moment of its expiration plus leeway,
while an authentication is still recent enough at the last moment allowed.
-/

namespace RelyingParty

open Text Numeric

/-- What is wrong with a claim. -/
inductive ClaimFault where
  /-- The claim is absent, of the wrong type, or blank; `remark` says what was wanted. -/
  | missing (claim : Claim) (remark : String)
  /-- The claim is not the text required. -/
  | mismatch (claim : Claim) (expected found : String)
  /-- The audience required is none of the token's. -/
  | notAudience (expected : String) (found : List String)
  /-- The token has expired. -/
  | expired (now expiresAt : Int)
  /-- The authentication was too long ago. -/
  | authenticationTooOld (now validUntil : Int)
deriving DecidableEq, Repr

namespace ClaimFault

/-- The claim that is wrong. -/
def claim : ClaimFault → Claim
  | missing c _ => c
  | mismatch c _ _ => c
  | notAudience _ _ => .aud
  | expired _ _ => .exp
  | authenticationTooOld _ _ => .authTime

/-- A claim by its title and its name. -/
def titled (c : Claim) : String := c.title ++ " (" ++ c.name ++ ") claim"

/-- The fault in words. -/
def message : ClaimFault → String
  | missing c remark => titled c ++ " must be a " ++ remark ++ "."
  | mismatch c expected found =>
    titled c ++ " mismatch in the ID token; expected \"" ++ expected ++ "\", found \"" ++ found ++
      "\"."
  | notAudience expected found =>
    titled .aud ++ " mismatch in the ID token; expected \"" ++ expected ++
      "\" but was not one of \"" ++ ", ".intercalate found ++ "\"."
  | expired now expiresAt =>
    titled .exp ++ " error in the ID token; current time (" ++ toString now ++
      ") is after expiration time (" ++ toString expiresAt ++ ")."
  | authenticationTooOld now validUntil =>
    titled .authTime ++ " in the ID token indicates that too much time has passed since the " ++
      "last end-user authentication. Current time (" ++ toString now ++
      ") is after last auth at (" ++ toString validUntil ++ ")."

end ClaimFault

/-- The outcome of a claim check. -/
abbrev ClaimResult := Except ClaimFault Unit

namespace ClaimCheck

/-- The whole seconds of a duration as a signed 64-bit number. -/
def seconds (d : Duration) : Int := min d.seconds int64Max

/-- A text claim that is present and not blank. -/
def text? (token : Token) (claim : Claim) : Option String :=
  (token.string? claim.name).bind nonBlank?

/-- Checks that a text claim is one that the requirements accept. -/
def text (token : Token) (claim : Claim) (remark expected : String)
    (accepts : String → Bool) : ClaimResult :=
  match text? token claim with
  | none => .error (.missing claim remark)
  | some found => if accepts found then .ok () else .error (.mismatch claim expected found)

/-- What is wanted of a text claim. -/
def stringPresent : String := "string present in the ID token"

/-- What is wanted of a time claim. -/
def numberPresent : String := "number present in the ID token"

/-- The issuer is the one required. -/
def issuer (requirements : Requirements) (token : Token) : ClaimResult :=
  text token .iss stringPresent requirements.issuer (· == requirements.issuer)

/-- There is a subject. -/
def subject (token : Token) : ClaimResult :=
  match text? token .sub with
  | none => .error (.missing .sub stringPresent)
  | some _ => .ok ()

/-- The audience required is among the token's. -/
def audience (requirements : Requirements) (token : Token) : ClaimResult :=
  let audiences := token.audiences
  if audiences.isEmpty then
    .error (.missing .aud "string or array of strings present in the ID token")
  else if audiences.contains requirements.audience then .ok ()
  else .error (.notAudience requirements.audience audiences)

/-- The token has not expired. -/
def expiration (token : Token) (now leeway : Int) : ClaimResult :=
  match token.expiration? with
  | none => .error (.missing .exp numberPresent)
  | some expiration =>
    let expiresAt := addSaturating expiration leeway
    if now < expiresAt then .ok () else .error (.expired now expiresAt)

/-- There is a time of issue. -/
def issuedAt (token : Token) : ClaimResult :=
  match token.issuedAt? with
  | none => .error (.missing .iat numberPresent)
  | some _ => .ok ()

/-- The nonce is the one required, if one is. -/
def nonce (requirements : Requirements) (token : Token) : ClaimResult :=
  match requirements.nonce with
  | none => .ok ()
  | some expected => text token .nonce stringPresent expected (· == expected)

/-- With more than one audience, the authorized party is the audience required. -/
def authorizedParty (requirements : Requirements) (token : Token) : ClaimResult :=
  if token.audiences.length ≤ 1 then .ok ()
  else
    text token .azp (stringPresent ++ " when Audience (aud) claim has multiple values")
      requirements.audience (· == requirements.audience)

/-- The authentication is recent enough, if that is required. -/
def authTime (requirements : Requirements) (token : Token) (now leeway : Int) : ClaimResult :=
  match requirements.maxAge with
  | none => .ok ()
  | some maxAge =>
    match token.authTime? with
    | none => .error (.missing .authTime (numberPresent ++ " when Max Age (max_age) is specified"))
    | some authTime =>
      let validUntil := addSaturating (addSaturating authTime (seconds maxAge)) leeway
      if now ≤ validUntil then .ok () else .error (.authenticationTooOld now validUntil)

/-- How an identifier of an organization begins. -/
def organizationIdMark : String := "org_"

/-- The organization is the one required, if one is: by identifier, or by name without regard to
case. -/
def organization (requirements : Requirements) (token : Token) : ClaimResult :=
  match requirements.organization with
  | none => .ok ()
  | some expected =>
    if organizationIdMark.isPrefixOf expected then
      text token .orgId stringPresent expected (· == expected)
    else
      text token .orgName stringPresent expected
        (fun found => lowercase found == lowercase expected)

/-- All checks of a token at a time, in order. -/
def assert (requirements : Requirements) (token : Token) (now : Int) : ClaimResult := do
  let leeway := seconds requirements.leeway
  issuer requirements token
  subject token
  audience requirements token
  expiration token now leeway
  issuedAt token
  nonce requirements token
  authorizedParty requirements token
  authTime requirements token now leeway
  organization requirements token

end ClaimCheck

end RelyingParty
