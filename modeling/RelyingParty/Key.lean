import RelyingParty.Base64Url
import RelyingParty.Crypto.Rsa
import RelyingParty.Json.Decode

/-!
# Keys

A published key in JSON: the kind of key and the members that belong to the kind, an identifier, and
remarks on its use, which have to be well formed but are not kept. The kinds are tried in a fixed
order, and members that a kind does not know do not matter to it.
-/

namespace RelyingParty

open Json

/-- The curve of a key. -/
inductive Curve where
  /-- NIST P-256. -/
  | p256
  /-- NIST P-384. -/
  | p384
  /-- NIST P-521. -/
  | p521
  /-- Edwards curve 25519. -/
  | ed25519
deriving DecidableEq, Repr

/-- The curves with their names. -/
def Curve.names : List (String × Curve) :=
  [("P-256", .p256), ("P-384", .p384), ("P-521", .p521), ("Ed25519", .ed25519)]

/-- The members of a key that belong to its kind; binary ones are still base64url. -/
inductive KeyMaterial where
  /-- A point of an elliptic curve. -/
  | ellipticCurve (curve : Curve) (x y : String)
  /-- An RSA modulus and exponent. -/
  | rsa (modulus exponent : String)
  /-- A symmetric key. -/
  | octets (value : String)
  /-- A public key of one coordinate. -/
  | octetPair (curve : Curve) (x : String)
deriving DecidableEq, Repr

/-- A published key. -/
structure Key where
  /-- The identifier. -/
  kid : Option String
  /-- The kind and its members. -/
  material : KeyMaterial
deriving DecidableEq, Repr

namespace Key

/-- Accepts a string. -/
def checkString (wanted : String) : Value → Except Cause Unit
  | .string _ => .ok ()
  | other => .error (.wrongType other.found wanted)

/-- Accepts an array of strings. -/
def checkStrings : Value → Except Cause Unit
  | .array items => items.forM (checkString "a string")
  | other => .error (.wrongType other.found "a sequence")

/-- Accepts nothing. -/
def checkUnit : Value → Except Cause Unit
  | .null => .ok ()
  | .object [] => .ok ()
  | other => .error (.wrongType other.found "unit")

/-- Accepts a name, or an object with the name as its only member and no value. -/
def checkName : Value → Except Cause Unit
  | .string _ => .ok ()
  | .object [(_, value)] => checkUnit value
  | .object _ => .error (.wrongValue .map "map with a single key")
  | other => .error (.wrongType other.found "string or map")

/-- How the value of a common member is checked, if `name` is one. -/
def commonCheck? (name : String) : Option (Value → Except Cause Unit) :=
  if ["use", "kid", "x5u", "x5t", "x5t#S256"].contains name then some (checkString "a string")
  else if ["key_ops", "x5c"].contains name then some checkStrings
  else if name = "alg" then some checkName
  else none

/-- Checks the common members in order; each may occur once, and `null` stands for none. -/
def checkCommon (seen : List String) : Members → Except Cause Unit
  | [] => .ok ()
  | (name, value) :: rest =>
    match commonCheck? name with
    | none => checkCommon seen rest
    | some check => do
      if seen.contains name then .error (.duplicateField name)
      match value with
      | .null => pure ()
      | other => check other
      checkCommon (name :: seen) rest

/-- The value of a member that occurs exactly once. -/
def single? (members : Members) (name : String) : Option Value :=
  match members.filter (·.1 == name) with
  | [(_, value)] => some value
  | _ => none

/-- The text of a member that occurs exactly once. -/
def text? (members : Members) (name : String) : Option String :=
  (single? members name).bind Value.string?

/-- The alternative that a member names that occurs exactly once. -/
def choice? {α : Type} (members : Members) (name : String) (choices : List (String × α)) :
    Option α :=
  match single? members name with
  | some (.string chosen) => choices.lookup chosen
  | some (.object [(chosen, value)]) =>
    if (checkUnit value).isOk then choices.lookup chosen else none
  | _ => none

/-- A point of an elliptic curve, if the members are one. -/
def ellipticCurve? (members : Members) : Option KeyMaterial := do
  choice? members "kty" [("EC", ())]
  return .ellipticCurve (← choice? members "crv" Curve.names) (← text? members "x")
    (← text? members "y")

/-- An RSA key, if the members are one. -/
def rsa? (members : Members) : Option KeyMaterial := do
  choice? members "kty" [("RSA", ())]
  return .rsa (← text? members "n") (← text? members "e")

/-- A symmetric key, if the members are one. -/
def octets? (members : Members) : Option KeyMaterial := do
  choice? members "kty" [("oct", ())]
  return .octets (← text? members "k")

/-- A public key of one coordinate, if the members are one. -/
def octetPair? (members : Members) : Option KeyMaterial := do
  choice? members "kty" [("OKP", ())]
  return .octetPair (← choice? members "crv" Curve.names) (← text? members "x")

/-- The first kind that the members fit. -/
def material? (members : Members) : Option KeyMaterial :=
  (ellipticCurve? members).or <| (rsa? members).or <| (octets? members).or (octetPair? members)

/-- The key that the members of an object describe. -/
def ofMembers (members : Members) : Except Cause Key := do
  checkCommon [] members
  match material? members with
  | some material => pure ⟨(members.find? "kid").bind Value.string?, material⟩
  | none => .error (.noVariant "AlgorithmParameters")

/-- The key that a value describes. -/
def ofValue? : Value → Option Key
  | .object members => (ofMembers members).toOption
  | _ => none

/-- Reads a key, whose members hold at most `depth` containers inside each other. -/
def read (depth : Nat) : Reader Key :=
  let member (name : String) (seen : Members) : Reader Members := do
    Reader.colon
    return (name, ← Reader.value depth) :: seen
  Reader.object "struct Jwk" [] member fun seen =>
    match ofMembers seen.reverse with
    | .ok key => .ok key
    | .error cause => .error ⟨cause, none⟩

/-- Key material in binary form. -/
inductive Public where
  /-- An RSA key. -/
  | rsa (key : Crypto.Rsa.PublicKey)
  /-- A key of another kind. -/
  | other
deriving DecidableEq, Repr

/-- The key material in binary form, member by member. -/
def decoded (key : Key) : Except Base64Url.Fault Public :=
  match key.material with
  | .rsa modulus exponent => do
    let n ← Base64Url.decodeText modulus
    let e ← Base64Url.decodeText exponent
    return .rsa ⟨n, e⟩
  | .ellipticCurve _ x y => do
    let _ ← Base64Url.decodeText x
    let _ ← Base64Url.decodeText y
    return .other
  | .octets value => do
    let _ ← Base64Url.decodeText value
    return .other
  | .octetPair _ x => do
    let _ ← Base64Url.decodeText x
    return .other

end Key

end RelyingParty
