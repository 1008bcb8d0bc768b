import RelyingParty.Key

/-!
# Key sets

The keys that an issuer publishes, in the order of the document, with where they come from. The key
with an identifier is the first one that has it. A key that is not well formed spoils the whole set.
-/

namespace RelyingParty

open Json

/-- The keys that an issuer publishes. -/
structure KeySet where
  /-- The issuer. -/
  issuer : String
  /-- Where the keys were fetched. -/
  uri : String
  /-- The keys. -/
  keys : List Key
deriving DecidableEq, Repr

namespace KeySet

/-- The first key with an identifier. -/
def find? (set : KeySet) (kid : String) : Option Key :=
  set.keys.find? (·.kid == some kid)

/-- The place of the first key with an identifier. -/
def findIdx? (set : KeySet) (kid : String) : Option Nat :=
  set.keys.findIdx? (·.kid == some kid)

/-- The identifiers of the keys. -/
def kids (set : KeySet) : List (Option String) :=
  set.keys.map Key.kid

/-- Where the keys come from and their identifiers, in words. -/
def text (set : KeySet) : String :=
  let kids := set.kids.map fun kid => Text.quoted (kid.getD "<none>")
  "KeySet \x7b issuer: " ++ Text.quoted set.issuer ++ ", jwks_uri: " ++ Text.quoted set.uri ++
    ", kids: [" ++ ", ".intercalate kids ++ "] \x7d"

/-- How deep the containers inside a member of a key may be: the set, its list and the key itself
are containers too. -/
def memberDepth : Nat := Reader.maxDepth - 3

/-- Reads the keys. -/
def readKeys : Reader (List Key) := Reader.list (Key.read memberDepth)

/-- Reads a member of a key set document. -/
def readMember (name : String) (seen : Option (List Key)) : Reader (Option (List Key)) := do
  if name = "keys" then Reader.field name seen readKeys
  else
    Reader.ignored
    return seen

/-- Reads the array that holds the keys alone. -/
def readSequence : Reader (List Key) := do
  match ← Reader.item? true readKeys with
  | some keys => pure keys
  | none => Reader.failUnplaced (.wrongLength 0 "struct JwkSet with 1 element")

/-- The keys of a key set document. -/
def keysOfDocument (document : String) : Except Fault (List Key) :=
  let complete (seen : Option (List Key)) : Except Fault (List Key) :=
    match seen with
    | some keys => .ok keys
    | none => .error ⟨.missingField "keys", none⟩
  readWith (Reader.record "struct JwkSet" none readMember complete readSequence)
    (Text.Utf8.encode document)

end KeySet

end RelyingParty
