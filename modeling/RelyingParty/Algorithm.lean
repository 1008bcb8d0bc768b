import RelyingParty.Json.Decode

/-!
# Signature algorithms

The two algorithms an ID token may be signed with. In a document an algorithm is its name, or an
object with the name as its only member and no value.
-/

namespace RelyingParty

open Json

/-- An algorithm for the signature of an ID token. -/
inductive Algorithm where
  /-- HMAC with SHA-256, keyed with the client secret. -/
  | hs256
  /-- RSASSA-PKCS1-v1_5 with SHA-256, with a key that the issuer publishes. -/
  | rs256
deriving DecidableEq, Repr

namespace Algorithm

/-- The registered name. -/
def name : Algorithm → String
  | hs256 => "HS256"
  | rs256 => "RS256"

/-- The algorithm with a name. -/
def ofName? (name : String) : Option Algorithm :=
  if name = hs256.name then some hs256
  else if name = rs256.name then some rs256
  else none

/-- Reads the name of an algorithm. -/
def readName : Reader Algorithm := Reader.placed do
  let name ← Reader.string "variant identifier"
  match ofName? name with
  | some algorithm => pure algorithm
  | none => Reader.failUnplaced (.unknownVariant name [hs256.name, rs256.name])

/-- Reads an algorithm. -/
def read : Reader Algorithm := do
  match ← Reader.peekPastBlanks with
  | none => Reader.failAhead .endInValue
  | some b =>
    if b == Reader.byte '{' then
      Reader.skip
      let algorithm ← readName
      Reader.colon
      Reader.null "unit"
      match ← Reader.peekPastBlanks with
      | none => Reader.fail .endInObject
      | some c =>
        if c == Reader.byte '\x7d' then
          Reader.skip
          pure algorithm
        else Reader.fail .noValue
    else if b == Reader.byte '"' then readName
    else Reader.failAhead .noValue

/-- The algorithm that a document names. -/
def ofDocument (document : String) : Except Fault Algorithm :=
  readWith read (Text.Utf8.encode document)

end Algorithm

end RelyingParty
