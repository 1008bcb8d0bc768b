import RelyingParty.Json.Plain

/-!
# Reading values of a wanted type

Readers for strings, numbers, lists and objects with known members. A value of another type is a
fault that names what was found: a scalar is read first, a container is left unread. An object with
known members may also be written as the array of their values.
-/

namespace RelyingParty.Json.Reader

open RelyingParty.Text

/-- Refuses the value ahead because it is not what is wanted. A scalar is read to its end. -/
def mismatch {α : Type} (wanted : String) : Reader α := placed do
  match ← peek with
  | none => failAhead .endInValue
  | some b =>
    if b == byte 'n' then
      skip; literal ['u', 'l', 'l']; failUnplaced (.wrongType .null wanted)
    else if b == byte 't' then
      skip; literal ['r', 'u', 'e']; failUnplaced (.wrongType (.bool true) wanted)
    else if b == byte 'f' then
      skip; literal ['a', 'l', 's', 'e']; failUnplaced (.wrongType (.bool false) wanted)
    else if b == byte '-' || (digit? b).isSome then
      let found ← number
      failUnplaced (.wrongType (Value.number found).found wanted)
    else if b == byte '"' then
      skip
      let found ← stringContent
      failUnplaced (.wrongType (.string found) wanted)
    else if b == byte '[' then failUnplaced (.wrongType .sequence wanted)
    else if b == byte '{' then failUnplaced (.wrongType .map wanted)
    else failAhead .noValue

/-- Reads a string. -/
def string (wanted : String) : Reader String := do
  match ← peekPastBlanks with
  | none => failAhead .endInValue
  | some b =>
    if b == byte '"' then
      skip
      stringContent
    else mismatch wanted

/-- Reads a whole number from zero to `max`. -/
def unsigned (max : Nat) (wanted : String) : Reader Nat := do
  match ← peekPastBlanks with
  | none => failAhead .endInValue
  | some b =>
    if b == byte '-' || (digit? b).isSome then
      match ← number with
      | .whole (.ofNat n) =>
        if n ≤ max then pure n else fail (.wrongValue (.whole n) wanted)
      | .whole n => fail (.wrongValue (.whole n) wanted)
      | .real x => fail (.wrongType (.real x) wanted)
    else mismatch wanted

/-- Reads `null` or a value. -/
def optional {α : Type} (read : Reader α) : Reader (Option α) := do
  if (← peekPastBlanks) == some (byte 'n') then
    skip
    literal ['u', 'l', 'l']
    pure none
  else return some (← read)

/-- Reads `null`. -/
def null (wanted : String) : Reader Unit := do
  match ← peekPastBlanks with
  | none => failAhead .endInValue
  | some b =>
    if b == byte 'n' then
      skip
      literal ['u', 'l', 'l']
    else mismatch wanted

/-- Reads an array of values of one type. -/
def list {α : Type} (item : Reader α) : Reader (List α) := do
  match ← peekPastBlanks with
  | none => failAhead .endInValue
  | some b =>
    if b == byte '[' then
      skip
      placed (enclosed (items item) closeList)
    else mismatch "a sequence"

/-- Reads an object member by member, from `start` to a state from which `complete` makes the
value. -/
def object {σ α : Type} (wanted : String) (start : σ) (member : String → σ → Reader σ)
    (complete : σ → Except Fault α) : Reader α := do
  match ← peekPastBlanks with
  | none => failAhead .endInValue
  | some b =>
    if b == byte '{' then
      skip
      let content : Reader α := do
        let state ← members member start
        match complete state with
        | .ok value => pure value
        | .error fault => throw fault
      placed (enclosed content closeObject)
    else mismatch wanted

/-- Reads an object member by member, or the array of its members' values with `sequence`. -/
def record {σ α : Type} (wanted : String) (start : σ) (member : String → σ → Reader σ)
    (complete : σ → Except Fault α) (sequence : Reader α) : Reader α := do
  if (← peekPastBlanks) == some (byte '[') then
    skip
    placed (enclosed sequence closeList)
  else object wanted start member complete

/-- Reads the value of a member that must not have one yet. -/
def field {α : Type} (name : String) (seen : Option α) (read : Reader α) : Reader (Option α) := do
  if seen.isSome then failUnplaced (.duplicateField name)
  else
    colon
    return some (← read)

/-- Passes over the value of a member that does not matter. -/
def ignored : Reader Unit := do
  colon
  skipValue

/-- Reads the next item of an array if there is one; `first` says that none has been read yet. -/
def item? {α : Type} (first : Bool) (read : Reader α) : Reader (Option α) := do
  if ← itemAhead first then return some (← read) else pure none

end RelyingParty.Json.Reader
