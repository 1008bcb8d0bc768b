import RelyingParty.Text.CaseTable

/-!
# Lower case

The full lower-case mapping of Unicode, without regard to any language. Each character has a
lower-case form of its own, with one exception: a capital sigma becomes a final sigma when a cased
letter stands before it and none after it, not counting characters that case ignores.
-/

namespace RelyingParty.Text

/-- The lower-case form of one character on its own. -/
def lowerChar (c : Char) : List Char :=
  let n := c.toNat
  if n < 0x80 then [c.toLower]
  else if n == 0x130 then ['i', '\u0307']
  else
    match lowerRuns.findSome? (·.lower? n) with
    | some m => [Char.ofNat m]
    | none => [c]

/-- Whether the first character that case does not ignore is a cased letter. -/
def startsCased (chars : List Char) : Bool :=
  match chars.find? (fun c => !caseIgnorable.has c) with
  | some c => casedLetters.has c
  | none => false

/-- The lower-case form of `rest`, where `before` holds the characters passed, nearest first. -/
def lowerFrom (before : List Char) : List Char → List Char
  | [] => []
  | c :: rest =>
    let form :=
      if c == '\u03A3' then
        if startsCased before && !startsCased rest then ['\u03C2'] else ['\u03C3']
      else lowerChar c
    form ++ lowerFrom (c :: before) rest

/-- The lower-case form of a text. -/
def lowercase (text : String) : String :=
  String.ofList (lowerFrom [] text.toList)

end RelyingParty.Text
