import RelyingParty.Json.Document

/-!
# Plain values

In a plain value no object has a name twice, and embedded documents are replaced by what they hold.
An object whose first member has the name reserved for embedded documents stands for the document
in that member's string; it may have no other member.
-/

namespace RelyingParty.Json

open RelyingParty.Text

/-- The member name that is reserved for embedded documents. -/
def embeddedName : String := "$serde_json::private::RawValue"

/-- The text of the embedded document that an object stands for, if it begins with the reserved
name; a fault if its value is not a string. -/
def embedded? : Members → Except Fault (Option String)
  | (name, value) :: _ =>
    if name = embeddedName then
      match value with
      | .string text => .ok (some text)
      | other => .error ⟨.wrongType other.found "raw value", none⟩
    else .ok none
  | [] => .ok none

mutual

/-- The plain form of a value, with a reader for embedded documents. -/
def plainWith (embedded : String → Except Fault Value) : Value → Except Fault Value
  | .array items => do return .array (← plainItems embedded items)
  | .object members => do
    match ← embedded? members with
    | some text =>
      let value ← embedded text
      if members.length = 1 then pure value
      else .error ⟨.wrongLength members.length "1 element in map", none⟩
    | none => return .object (Keyed.merged (← plainMembers embedded members))
  | other => .ok other

/-- The plain forms of the items of an array. -/
def plainItems (embedded : String → Except Fault Value) : List Value → Except Fault (List Value)
  | [] => .ok []
  | item :: rest => do
    let first ← plainWith embedded item
    return first :: (← plainItems embedded rest)

/-- The plain forms of the values of members. -/
def plainMembers (embedded : String → Except Fault Value) : Members → Except Fault Members
  | [] => .ok []
  | (name, item) :: rest => do
    let first ← plainWith embedded item
    return (name, first) :: (← plainMembers embedded rest)

end

/-- The plain form of a value, where documents are embedded in each other at most `bound` times. -/
def plain : Nat → Value → Except Fault Value
  | 0, value => plainWith (fun _ => .error ⟨.tooDeep, none⟩) value
  | bound + 1, value =>
    plainWith (fun text => do plain bound (← readValue (Utf8.encode text))) value

/-- Reads a whole document as a plain value. An embedded document is shorter than the one around it,
so the length bounds how often they are embedded. -/
def readPlain (document : Bytes) : Except Fault Value := do
  plain document.length (← readValue document)

end RelyingParty.Json
