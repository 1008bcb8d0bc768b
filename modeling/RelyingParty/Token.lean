import RelyingParty.Algorithm
import RelyingParty.Numeric.Int64

/-!
# Tokens

A token whose signature has been verified, and its claims as the checks see them. A claim of another
JSON type than the one asked for reads as absent.
-/

namespace RelyingParty

open Json Numeric

/-- A number as a signed 64-bit number: a fraction is cut off, and a number beyond the range stands
for its nearer end. -/
def Json.Number.toInt64 : Json.Number → Int
  | .whole n => clampInt64 n
  | .real x => clampInt64 x.truncate

/-- A token whose signature has been verified. -/
structure Token where
  /-- The algorithm of the signature. -/
  algorithm : Algorithm
  /-- The identifier of the key, as the header names it. -/
  keyId : Option String
  /-- The claims, each once, in document order. -/
  claims : Members

namespace Token

/-- A claim by name. -/
def claim? (token : Token) (name : String) : Option Value :=
  token.claims.find? name

/-- A claim that is a string. -/
def string? (token : Token) (name : String) : Option String :=
  (token.claim? name).bind Value.string?

/-- A claim that is a number, as a signed 64-bit number. -/
def numeric? (token : Token) (name : String) : Option Int :=
  ((token.claim? name).bind Value.number?).map Json.Number.toInt64

/-- The strings of a list, each at its first place only. -/
def distinct : List String → List String
  | [] => []
  | s :: rest => s :: (distinct rest).filter (· != s)

/-- The audiences: a string is the only one, and of an array the strings count. -/
def audiences (token : Token) : List String :=
  match token.claim? "aud" with
  | some (.string s) => [s]
  | some (.array items) => distinct (items.filterMap Value.string?)
  | _ => []

/-- The issuer. -/
def issuer? (token : Token) : Option String := token.string? "iss"

/-- The subject. -/
def subject? (token : Token) : Option String := token.string? "sub"

/-- The expiration time, in seconds since the epoch. -/
def expiration? (token : Token) : Option Int := token.numeric? "exp"

/-- The time of issue, in seconds since the epoch. -/
def issuedAt? (token : Token) : Option Int := token.numeric? "iat"

/-- The nonce of the authentication request. -/
def nonce? (token : Token) : Option String := token.string? "nonce"

/-- The party the token was issued to. -/
def authorizedParty? (token : Token) : Option String := token.string? "azp"

/-- The time of authentication, in seconds since the epoch. -/
def authTime? (token : Token) : Option Int := token.numeric? "auth_time"

theorem mem_distinct {s : String} {texts : List String} : s ∈ distinct texts ↔ s ∈ texts := by
  induction texts with
  | nil => simp [distinct]
  | cons t rest ih =>
    by_cases h : s = t
    · simp [distinct, h]
    · simp [distinct, h, ih]

theorem nodup_distinct (texts : List String) : (distinct texts).Nodup := by
  induction texts with
  | nil => simp [distinct]
  | cons t rest ih =>
    simp only [distinct, List.nodup_cons, List.mem_filter]
    exact ⟨by simp, ih.filter _⟩

end Token

end RelyingParty
