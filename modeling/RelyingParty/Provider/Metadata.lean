import RelyingParty.Json.Decode

/-!
# Provider metadata

The document in which a provider describes itself. Only the place of its keys has to be there; the
issuer and the algorithms are read if they are present, and every other member is kept as it is. A
known member may occur once; of an unknown name the last value counts.
-/

namespace RelyingParty

open Json

/-- What a provider says about itself. -/
structure Metadata where
  /-- The issuer that the provider claims to be. -/
  issuer : Option String
  /-- Where the provider publishes its keys. -/
  keySetUri : String
  /-- The algorithms that ID tokens may be signed with. -/
  signingAlgorithms : Option (List String)
  /-- The other members, each name once. -/
  others : Members

namespace Metadata

/-- The name of the member for `issuer`. -/
def issuerName : String := "issuer"

/-- The name of the member for `keySetUri`. -/
def keySetUriName : String := "jwks_uri"

/-- The name of the member for `signingAlgorithms`. -/
def signingAlgorithmsName : String := "id_token_signing_alg_values_supported"

/-- The names that are not kept among the other members. -/
def knownNames : List String := [issuerName, keySetUriName, signingAlgorithmsName]

/-- A member that is left out when it has no value. -/
def optionalMember (name : String) : Option Value → Members
  | some value => [(name, value)]
  | none => []

/-- The members of the document that describes the provider. -/
def toMembers (metadata : Metadata) : Members :=
  optionalMember issuerName (metadata.issuer.map .string) ++
    (keySetUriName, .string metadata.keySetUri) ::
    optionalMember signingAlgorithmsName
      (metadata.signingAlgorithms.map fun names => .array (names.map .string)) ++
    metadata.others

/-- The members of a document that have been read; the unknown ones stand in reverse order and are
not yet in their plain form. -/
structure Draft where
  /-- See `Metadata.issuer`. -/
  issuer : Option (Option String) := none
  /-- See `Metadata.keySetUri`. -/
  keySetUri : Option String := none
  /-- See `Metadata.signingAlgorithms`. -/
  signingAlgorithms : Option (Option (List String)) := none
  /-- See `Metadata.others`. -/
  others : Members := []

/-- Reads a text. -/
def readText : Reader String := Reader.string "a string"

/-- How deep the containers inside a member may be: the document is a container too. -/
def memberDepth : Nat := Reader.maxDepth - 1

/-- Reads a member. -/
def readMember (name : String) (draft : Draft) : Reader Draft := do
  if name = issuerName then
    return { draft with issuer := ← Reader.field name draft.issuer (Reader.optional readText) }
  else if name = keySetUriName then
    return { draft with keySetUri := ← Reader.field name draft.keySetUri readText }
  else if name = signingAlgorithmsName then
    let names := Reader.optional (Reader.list readText)
    return { draft with signingAlgorithms := ← Reader.field name draft.signingAlgorithms names }
  else
    Reader.colon
    let value ← Reader.value memberDepth
    return { draft with others := (name, value) :: draft.others }

/-- The metadata that the members describe; documents are embedded in each other at most `bound`
times. -/
def Draft.complete (bound : Nat) (draft : Draft) : Except Fault Metadata := do
  match draft.keySetUri with
  | none => .error ⟨.missingField keySetUriName, none⟩
  | some keySetUri =>
    let others ← draft.others.reverse.mapM fun (name, value) => return (name, ← plain bound value)
    return {
      issuer := draft.issuer.join
      keySetUri := keySetUri
      signingAlgorithms := draft.signingAlgorithms.join
      others := Keyed.merged others }

/-- The metadata that a document holds. -/
def ofDocument (document : String) : Except Fault Metadata :=
  let bytes := Text.Utf8.encode document
  readWith (Reader.object "struct OpenIdConfiguration" {} readMember (Draft.complete bytes.length))
    bytes

end Metadata

end RelyingParty
