import RelyingParty.Json.Reader

/-!
# Reading values

A value is read whole, with at most 127 containers inside each other, or passed over, to any depth.
The two differ in what they notice: passing over does not look at the size of a number or at the
characters a string stands for, and a comma before the end of a container is found where the next
item should begin.
-/

namespace RelyingParty.Json

open RelyingParty.Text

namespace Reader

/-- Whether an item of an array lies ahead; `first` says that none has been read yet. The comma
before an item is passed over. -/
def itemAhead (first : Bool) : Reader Bool := do
  match ← peekPastBlanks with
  | none => failAhead .endInList
  | some b =>
    if b == byte ']' then pure false
    else if first then pure true
    else if b == byte ',' then
      skip
      match ← peekPastBlanks with
      | none => failAhead .endInValue
      | some c => if c == byte ']' then failAhead .trailingComma else pure true
    else failAhead .noListEnd

/-- Whether a member of an object lies ahead; `first` says that none has been read yet. The comma
before a member is passed over, and the quote of its name is the next byte. -/
def memberAhead (first : Bool) : Reader Bool := do
  match ← peekPastBlanks with
  | none => failAhead .endInObject
  | some b =>
    if b == byte '\x7d' then pure false
    else if first then
      if b == byte '"' then pure true else failAhead .nameNotString
    else if b == byte ',' then
      skip
      match ← peekPastBlanks with
      | none => failAhead .endInValue
      | some c =>
        if c == byte '"' then pure true
        else if c == byte '\x7d' then failAhead .trailingComma
        else failAhead .nameNotString
    else failAhead .noObjectEnd

/-- Reads the end of an array. -/
def closeList : Reader Unit := do
  match ← peekPastBlanks with
  | none => failAhead .endInList
  | some b =>
    if b == byte ']' then skip
    else if b == byte ',' then
      skip
      if (← peekPastBlanks) == some (byte ']') then failAhead .trailingComma
      else failAhead .trailingCharacters
    else failAhead .trailingCharacters

/-- Reads the end of an object. -/
def closeObject : Reader Unit := do
  match ← peekPastBlanks with
  | none => failAhead .endInObject
  | some b =>
    if b == byte '\x7d' then skip
    else if b == byte ',' then failAhead .trailingComma
    else failAhead .trailingCharacters

/-- Reads the colon between a member's name and its value. -/
def colon : Reader Unit := do
  match ← peekPastBlanks with
  | none => failAhead .endInObject
  | some b => if b == byte ':' then skip else failAhead .noColon

/-- Reads the remaining items of an array, at most `bound` of them, behind `seen`, which holds the
items read, last first. -/
def itemsFrom {α : Type} (item : Reader α) : Nat → List α → Reader (List α)
  | 0, _ => failAhead .endInList
  | bound + 1, seen => do
    if ← itemAhead seen.isEmpty then
      let value ← item
      itemsFrom item bound (value :: seen)
    else pure seen.reverse

/-- Reads the items of an array after its opening bracket. -/
def items {α : Type} (item : Reader α) : Reader (List α) := do
  itemsFrom item ((← remaining) + 1) []

/-- Reads the remaining members of an object, at most `bound` of them. Each is added to `state` by
`member`, which gets the name and reads the colon and the value. -/
def membersFrom {σ : Type} (member : String → σ → Reader σ) : Nat → Bool → σ → Reader σ
  | 0, _, _ => failAhead .endInObject
  | bound + 1, first, state => do
    if ← memberAhead first then
      skip
      let name ← stringContent
      let state ← member name state
      membersFrom member bound false state
    else pure state

/-- Reads the members of an object after its opening brace. -/
def members {σ : Type} (member : String → σ → Reader σ) (state : σ) : Reader σ := do
  membersFrom member ((← remaining) + 1) true state

/-- Reads a value, with a reader for the values inside it unless a container would be too deep. -/
def valueWith (inner : Option (Reader Value)) : Reader Value := do
  match ← peekPastBlanks with
  | none => failAhead .endInValue
  | some b =>
    if b == byte 'n' then skip; literal ['u', 'l', 'l']; pure .null
    else if b == byte 't' then skip; literal ['r', 'u', 'e']; pure (.bool true)
    else if b == byte 'f' then skip; literal ['a', 'l', 's', 'e']; pure (.bool false)
    else if b == byte '-' || (digit? b).isSome then return .number (← number)
    else if b == byte '"' then skip; return .string (← stringContent)
    else if b == byte '[' then
      match inner with
      | none => failAhead .tooDeep
      | some item =>
        skip
        return .array (← placed (enclosed (items item) closeList))
    else if b == byte '{' then
      match inner with
      | none => failAhead .tooDeep
      | some item =>
        skip
        let member (name : String) (seen : Members) : Reader Members := do
          colon
          return (name, ← item) :: seen
        return .object (← placed (enclosed (members member []) closeObject)).reverse
    else failAhead .noValue

/-- Reads a value with at most `depth` containers inside each other. -/
def value : Nat → Reader Value
  | 0 => valueWith none
  | depth + 1 => valueWith (some (value depth))

/-- The greatest number of containers inside each other. -/
def maxDepth : Nat := 127

/-- A container whose end is looked for while values are passed over. -/
inductive Frame where
  /-- An array. -/
  | list
  /-- An object. -/
  | object
deriving DecidableEq, Repr

/-- Passes over a member's name and the colon. -/
def skipName : Reader Unit := do
  match ← peekPastBlanks with
  | none => failAhead .endInObject
  | some b =>
    if b == byte '"' then
      skip
      skipString ((← remaining) + 1)
      colon
    else failAhead .nameNotString

/-- Passes over the ends of the containers `open`, innermost first, up to the next item; a comma
may come before it once an item has been passed over. Gives the containers that stay open. -/
def skipEnds (afterItem : Bool) : List Frame → Reader (List Frame)
  | [] => pure []
  | frame :: outer => do
    match ← peekPastBlanks with
    | none => failAhead (match frame with | .list => .endInList | .object => .endInObject)
    | some b =>
      if afterItem && b == byte ',' then
        skip
        pure (frame :: outer)
      else if frame == .list && b == byte ']' || frame == .object && b == byte '\x7d' then
        skip
        skipEnds true outer
      else if afterItem then
        failAhead (match frame with | .list => .noListEnd | .object => .noObjectEnd)
      else pure (frame :: outer)

/-- Passes over a value inside the containers `open`, and over all that follows up to the end of
the outermost container, in at most `bound` steps. -/
def skipInside : Nat → List Frame → Reader Unit
  | 0, _ => failAhead .endInValue
  | bound + 1, «open» => do
    let (afterItem, inner) ← (do
      match ← peekPastBlanks with
      | none => failAhead .endInValue
      | some b =>
        if b == byte 'n' then skip; literal ['u', 'l', 'l']; pure (true, «open»)
        else if b == byte 't' then skip; literal ['r', 'u', 'e']; pure (true, «open»)
        else if b == byte 'f' then skip; literal ['a', 'l', 's', 'e']; pure (true, «open»)
        else if b == byte '-' then skip; skipUnsigned; pure (true, «open»)
        else if (digit? b).isSome then skipUnsigned; pure (true, «open»)
        else if b == byte '"' then
          skip
          skipString ((← remaining) + 1)
          pure (true, «open»)
        else if b == byte '[' then skip; pure (false, .list :: «open»)
        else if b == byte '{' then skip; pure (false, .object :: «open»)
        else failAhead .noValue : Reader (Bool × List Frame))
    match ← skipEnds afterItem inner with
    | [] => pure ()
    | .list :: outer => skipInside bound (.list :: outer)
    | .object :: outer =>
      skipName
      skipInside bound (.object :: outer)

/-- Passes over a value of any depth. -/
def skipValue : Reader Unit := do
  skipInside ((← remaining) + 1) []

/-- Reads the end of the document. -/
def finish : Reader Unit := do
  if (← peekPastBlanks).isSome then failAhead .trailingCharacters

end Reader

/-- Reads a whole document with a reader for what it holds. -/
def readWith {α : Type} (read : Reader α) (document : Bytes) : Except Fault α :=
  match (do let value ← read; Reader.finish; pure value : Reader α) (Cursor.start document) with
  | .ok value _ => .ok value
  | .error fault _ => .error fault

/-- Reads a whole document as a value. -/
def readValue (document : Bytes) : Except Fault Value :=
  readWith (Reader.value Reader.maxDepth) document

end RelyingParty.Json
