import RelyingParty.Text.GlyphTable

/-!
# Quoted display of a text

A text in double quotes, in one line of visible characters. The quote, the backslash, the common
controls and NUL have short escapes; a character that has no glyph, or that would attach itself to
the one before it, is written as its code point in hexadecimal.
-/

namespace RelyingParty.Text

/-- A number in lower-case hexadecimal. -/
def hex (n : Nat) : String :=
  String.ofList (Nat.toDigits 16 n)

/-- One character as it stands between quotes. -/
def quotedChar (c : Char) : String :=
  if c == '"' then "\\\""
  else if c == '\\' then "\\\\"
  else if c == '\n' then "\\n"
  else if c == '\r' then "\\r"
  else if c == '\t' then "\\t"
  else if c.toNat == 0 then "\\0"
  else if extenders.has c || glyphless.has c then "\\u\x7b" ++ hex c.toNat ++ "\x7d"
  else c.toString

/-- A text in double quotes, on one line. -/
def quoted (text : String) : String :=
  "\"" ++ String.join (text.toList.map quotedChar) ++ "\""

end RelyingParty.Text
