import Mathlib.Data.List.DropRight
import RelyingParty.Text.Blank

/-!
# Trimming

White space is given by its 25 code points, and blank texts by what is left of them when white space
is taken away from both ends. This is what the tests of characters and texts compute.
-/

namespace RelyingParty.Text

/-- The code points of white space. -/
def whiteSpace : List Nat :=
  [0x09, 0x0A, 0x0B, 0x0C, 0x0D, 0x20, 0x85, 0xA0, 0x1680, 0x2000, 0x2001, 0x2002, 0x2003, 0x2004,
    0x2005, 0x2006, 0x2007, 0x2008, 0x2009, 0x200A, 0x2028, 0x2029, 0x202F, 0x205F, 0x3000]

/-- The text without the white space at both its ends. -/
def trimmed (text : String) : String :=
  let isOuter (c : Char) : Bool := whiteSpace.contains c.toNat
  String.ofList ((text.toList.dropWhile isOuter).rdropWhile isOuter)

/-- Nothing is left of a text when it is trimmed. -/
def Blank (text : String) : Prop := trimmed text = ""

theorem isWhite_eq_contains (c : Char) : isWhite c = whiteSpace.contains c.toNat := by
  rw [Bool.eq_iff_iff, List.contains_iff_mem]
  simp only [isWhite, whiteSpace, Bool.or_eq_true, Bool.and_eq_true, decide_eq_true_eq, beq_iff_eq,
    List.mem_cons, List.not_mem_nil, or_false]
  omega

/-- Nothing is left between the ends exactly when all characters are dropped. -/
theorem rdropWhile_dropWhile_eq_nil_iff {α : Type} {drops : α → Bool} {list : List α} :
    (list.dropWhile drops).rdropWhile drops = [] ↔ ∀ x ∈ list, drops x = true := by
  rw [List.rdropWhile_eq_nil_iff]
  constructor
  · intro h x hx
    rw [← List.takeWhile_append_dropWhile (p := drops) (l := list), List.mem_append] at hx
    rcases hx with hfront | hrest
    · exact List.mem_takeWhile_imp hfront
    · exact h x hrest
  · intro h x hx
    exact h x ((List.dropWhile_sublist drops).mem hx)

/-- A text is blank exactly when it holds white space only. -/
theorem blank_iff {text : String} : Blank text ↔ isBlank text = true := by
  have hwhite : isWhite = fun c => whiteSpace.contains c.toNat := funext isWhite_eq_contains
  rw [Blank, trimmed, isBlank, hwhite, List.all_eq_true, ← rdropWhile_dropWhile_eq_nil_iff,
    ← String.toList_inj, String.toList_ofList]
  rfl

theorem not_blank_iff {text : String} : ¬ Blank text ↔ isBlank text = false := by
  rw [blank_iff, Bool.not_eq_true]

end RelyingParty.Text
