/-!
# Blank text

White space is the Unicode property White_Space: 25 characters, among them the line and paragraph
separators and the no-break spaces, but neither the information separators U+001C to U+001F nor
the zero-width characters. A text is blank when nothing is left of it after trimming, which is
the case exactly when it holds white space only.
-/

namespace RelyingParty.Text

/-- Whether a character has the Unicode property White_Space. -/
def isWhite (c : Char) : Bool :=
  let n := c.toNat
  (0x09 ≤ n && n ≤ 0x0D) || n == 0x20 || n == 0x85 || n == 0xA0 || n == 0x1680 ||
    (0x2000 ≤ n && n ≤ 0x200A) || n == 0x2028 || n == 0x2029 || n == 0x202F || n == 0x205F ||
    n == 0x3000

/-- Whether a text is empty once white space is trimmed from both ends. -/
def isBlank (text : String) : Bool :=
  text.toList.all isWhite

/-- The text itself, unless it is blank. -/
def nonBlank? (text : String) : Option String :=
  if isBlank text then none else some text

theorem nonBlank?_eq_some_iff {text found : String} :
    nonBlank? text = some found ↔ isBlank text = false ∧ text = found := by
  unfold nonBlank?
  split <;> simp_all

end RelyingParty.Text
