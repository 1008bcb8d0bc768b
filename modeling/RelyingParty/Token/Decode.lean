import RelyingParty.Crypto.Hmac
import RelyingParty.Error
import RelyingParty.KeySet
import RelyingParty.Token
import RelyingParty.Token.Header

/-!
# Decoding tokens

A token is three base64url segments between two dots: a header, a payload, and the signature of the
first two. The algorithm is given beforehand and compared with the header before any key is chosen;
a token is decoded only if its signature is valid under the one key that belongs to it. No claim is
looked at, except that the payload has to be readable, in any form, under five registered names.
-/

namespace RelyingParty

open Json Text

/-- What signatures are checked with. -/
inductive Verifier where
  /-- HMAC with the client secret. -/
  | symmetric (secret : String)
  /-- RSA with a key that the issuer publishes. -/
  | asymmetric (keys : KeySet)

/-- The algorithm that a verifier accepts. -/
def Verifier.algorithm : Verifier → Algorithm
  | symmetric _ => .hs256
  | asymmetric _ => .rs256

/-- The three segments of a token. -/
structure Segments where
  /-- The header, in base64url. -/
  header : String
  /-- The payload, in base64url. -/
  payload : String
  /-- The signature, in base64url. -/
  signature : String
deriving DecidableEq, Repr

namespace Segments

/-- The segments of a text with exactly two dots. -/
def ofText? (text : String) : Option Segments :=
  match text.toList.splitOn '.' with
  | [header, payload, signature] =>
    some ⟨String.ofList header, String.ofList payload, String.ofList signature⟩
  | _ => none

/-- What is signed. -/
def signed (segments : Segments) : Bytes :=
  Utf8.encode (segments.header ++ "." ++ segments.payload)

end Segments

namespace Token

/-- The rejection of a token that is not well formed. -/
def undecodable : ValidationError := .decode "ID token could not be decoded."

/-- A value, or the rejection of a token that is not well formed. -/
def wellFormed {ε α : Type} : Except ε α → Except ValidationError α
  | .ok value => .ok value
  | .error _ => .error undecodable

/-- The first look at the header of a token. -/
def header (text : String) : Except ValidationError (Segments × Header) := do
  match Segments.ofText? text with
  | none => .error undecodable
  | some segments =>
    let bytes ← wellFormed (Base64Url.decodeText segments.header)
    let header ← wellFormed (Header.ofBytes bytes)
    return (segments, header)

/-- The registered names whose values are read a second time. -/
def registeredClaims : List String := ["exp", "nbf", "sub", "iss", "aud"]

/-- Whether the second reading gets past a value. A time stops in an array or object that is not
empty and the subject in any; the others are read whole. -/
def isPassable (name : String) (value : Value) : Bool :=
  if name = "sub" then
    match value with
    | .array _ => false
    | .object _ => false
    | _ => true
  else if name = "exp" || name = "nbf" then
    match value with
    | .array items => items.isEmpty
    | .object members => members.isEmpty
    | _ => true
  else true

/-- Whether the second reading gets past the members of a payload: none of the registered names is
repeated, and each has a value to get past. -/
def isReadable (members : Members) : Bool :=
  (registeredClaims.all fun name => members.names.count name ≤ 1) &&
    members.all fun (name, value) => isPassable name value

/-- The claims of a payload: an object, whose member values are taken in their plain form. -/
def claimsOfBytes (bytes : Bytes) : Except ValidationError Members := do
  match ← wellFormed (readValue bytes) with
  | .object members =>
    let embedded (text : String) : Except Fault Value := do
      plain bytes.length (← readValue (Utf8.encode text))
    let claims ← wellFormed (plainMembers embedded members)
    if isReadable members then pure claims.merged else .error undecodable
  | _ => .error undecodable

/-- The key for a token, among those that an issuer publishes. -/
def keyFor (keys : KeySet) (kid : Option String) : Except ValidationError Key.Public := do
  match kid with
  | none => .error (.keyNotFound none)
  | some kid =>
    match keys.find? kid with
    | none => .error (.keyNotFound (some kid))
    | some key =>
      match key.decoded with
      | .ok found => pure found
      | .error fault =>
        .error (.keyRetrieval
          ("unusable signing key \"" ++ kid ++ "\": Base64 error: " ++ fault.message))

/-- Checks the signature of a token with a predicate on the signature's bytes. -/
def checkSignature (segments : Segments) (isValid : Bytes → Bool) :
    Except ValidationError Unit := do
  let signature ← wellFormed (Base64Url.decodeText segments.signature)
  if isValid signature then pure () else .error .invalidSignature

/-- Takes the second look at the header. -/
def checkHeader (segments : Segments) : Except ValidationError Unit := do
  let bytes ← wellFormed (Base64Url.decodeText segments.header)
  if Header.isWellFormed bytes then pure () else .error undecodable

/-- Chooses the key and checks header and signature with it. -/
def verify (verifier : Verifier) (segments : Segments) (kid : Option String) :
    Except ValidationError Unit := do
  match verifier with
  | .symmetric secret =>
    checkHeader segments
    checkSignature segments (· == Crypto.hmacSha256 (Utf8.encode secret) segments.signed)
  | .asymmetric keys =>
    let key ← keyFor keys kid
    checkHeader segments
    match key with
    | .other => .error (.keyRetrieval "unusable signing key: InvalidKeyFormat")
    | .rsa key => checkSignature segments (Crypto.Rsa.verify key segments.signed)

/-- Decodes a token whose signature is valid. -/
def decode (verifier : Verifier) (text : String) : Except ValidationError Token := do
  let (segments, header) ← header text
  let expected := verifier.algorithm.name
  if header.algorithm ≠ some expected then
    .error (.unsupportedAlgorithm expected (header.algorithm.getD ""))
  verify verifier segments header.kid
  let payload ← wellFormed (Base64Url.decodeText segments.payload)
  let claims ← claimsOfBytes payload
  return ⟨verifier.algorithm, header.kid, claims⟩

end Token

end RelyingParty
