import RelyingParty.Domain.Label
import RelyingParty.Domain.Punycode

/-!
# Domain names in ASCII

How a domain name is looked up: characters are replaced and put into canonical form, and each label
that is not ASCII then is written in Punycode behind a mark. A label that begins with the mark has
to be the Punycode of such a label.
-/

namespace RelyingParty.Domain

open RelyingParty.Text

/-- The mark in front of an encoded label. -/
def aceMark : List Char := ['x', 'n', '-', '-']

/-- Characters of ASCII that no domain name may hold. -/
def isForbidden (c : Char) : Bool :=
  c.toNat ≤ 0x20 || c == '\x7F' ||
    ['#', '/', ':', '<', '>', '?', '@', '[', '\\', ']', '^', '|', '%'].contains c

/-- Whether all characters are ASCII. -/
def isAscii (chars : List Char) : Bool := chars.all (·.toNat < 128)

/-- The label that an encoded label behind the mark stands for, if it is one that has to be
encoded. -/
def decoded? (encoded : List Char) : Option (List Char) := do
  let label ← Punycode.decode? encoded
  if isAscii label || label.any isForbidden || !isValidLabel label then none else some label

/-- What a label of a name stands for, if it is valid. -/
def label? (label : List Char) : Option (List Char) :=
  if aceMark.isPrefixOf label then decoded? (label.drop aceMark.length)
  else if isAscii label || isValidLabel label then some label
  else none

/-- A label in ASCII. -/
def encoded (label : List Char) : List Char :=
  if isAscii label then label else aceMark ++ Punycode.encode label

/-- A domain name in ASCII, if it is valid. -/
def toAscii? (name : String) : Option String := do
  let chars := canonical (name.toList.flatMap replaced)
  if chars.any fun c => disallowed.has c || isForbidden c then none
  let labels ← (chars.splitOn '.').mapM label?
  if labels.any (·.any runsBack) && !labels.all keepsDirection then none
  return String.ofList (['.'].intercalate (labels.map encoded))

end RelyingParty.Domain
