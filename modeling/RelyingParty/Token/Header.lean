import RelyingParty.Key

/-!
# Token headers

The header of a token is looked at twice. The first look only wants the algorithm and the key's
identifier and passes over everything else. The second look is at the whole header: it has to be an
object, its registered members have to be of their types and may not be repeated, and every other
member has to be a string.
-/

namespace RelyingParty

open Json

/-- The members of a header that decide how a token is checked. -/
structure Header where
  /-- The name of the algorithm. -/
  algorithm : Option String
  /-- The identifier of the key. -/
  kid : Option String
deriving DecidableEq, Repr

namespace Header

/-- Reads a string or `null`. -/
def readText : Reader (Option String) := Reader.optional (Reader.string "a string")

/-- Reads a member. -/
def readMember (name : String) (seen : Option (Option String) × Option (Option String)) :
    Reader (Option (Option String) × Option (Option String)) := do
  if name = "alg" then return (← Reader.field name seen.1 readText, seen.2)
  else if name = "kid" then return (seen.1, ← Reader.field name seen.2 readText)
  else
    Reader.ignored
    return seen

/-- The header, with what is absent left out. -/
def complete (seen : Option (Option String) × Option (Option String)) : Header :=
  ⟨seen.1.join, seen.2.join⟩

/-- Reads the array of the two members' values; those at its end may be left out. -/
def readSequence : Reader Header := do
  let some algorithm ← Reader.item? true readText
    | return complete (none, none)
  let some kid ← Reader.item? false readText
    | return complete (some algorithm, none)
  return complete (some algorithm, some kid)

/-- The first look at a header. -/
def ofBytes (bytes : Text.Bytes) : Except Fault Header :=
  readWith
    (Reader.record "struct Header" (none, none) readMember (fun seen => .ok (complete seen))
      readSequence)
    bytes

/-- Registered members that are strings. -/
def textNames : List String :=
  ["typ", "cty", "jku", "kid", "x5u", "x5t", "x5t#S256", "enc", "zip", "url", "nonce"]

/-- Registered members that are lists of strings. -/
def listNames : List String := ["x5c", "crit"]

/-- All registered members. -/
def registeredNames : List String := "alg" :: "jwk" :: (textNames ++ listNames)

/-- Whether a value is a string. -/
def isString (value : Value) : Bool := value.string?.isSome

/-- Whether the value of a member has the type that its name asks for. -/
def memberFits (name : String) (value : Value) : Bool :=
  if registeredNames.contains name then
    match value with
    | .null => name != "alg"
    | value =>
      if name = "jwk" then (Key.ofValue? value).isSome
      else if listNames.contains name then
        match value with
        | .array items => items.all isString
        | _ => false
      else isString value
  else isString value

/-- Whether no registered member is repeated. -/
def registeredOnce (members : Members) : Bool :=
  registeredNames.all fun name => members.names.count name ≤ 1

/-- The second look at a header: whether the bytes are a well-formed one. -/
def isWellFormed (bytes : Text.Bytes) : Bool :=
  match readValue bytes with
  | .ok (.object members) =>
    registeredOnce members && members.all fun (name, value) => memberFits name value
  | _ => false

end Header

end RelyingParty
