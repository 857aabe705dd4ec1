import ExtensionCatalogue.Text.Utf8
import ExtensionCatalogue.Url.Domain.Label

/-!
# Domain names

The ASCII form of a domain name: its characters are mapped and composed, and each of its labels is
checked and written in ASCII.
-/

namespace ExtensionCatalogue.Domain

/-- ASCII characters that no domain name holds. -/
def isForbidden (c : Char) : Bool :=
  c.toNat ≤ 0x20 || c.toNat == 0x7F ||
    c ∈ ['#', '/', ':', '<', '>', '?', '@', '[', '\\', ']', '^', '\x60', '\x7b', '|', '\x7d', '%']

/-- What a character becomes, if a domain name may hold it. -/
def mapChar? (c : Char) : Option (List Char) :=
  if isAscii c then some [c.toLower]
  else (mappingTable.find? c).or (if disallowedTable.contains c then none else some [c])

/-- The labels of a name. -/
def labels? (name : List Char) : Option (List Label) := do
  let images ← name.mapM mapChar?
  let labels ← ((Text.composed images.flatten).splitOnP (· == '.')).mapM Label.ofChars?
  if labels.any (hasRightToLeft ·.text) &&
      !labels.all (fun l => keepsDirection (l.text.map direction)) then none
  return labels

/-- The ASCII form of a name that is given in UTF-8. -/
def toAscii? (bs : List UInt8) : Option (List Char) := do
  let name ← Utf8.decode? bs
  let labels ← labels? name.toList
  let ascii := List.intercalate ['.'] (labels.map Label.ascii)
  if ascii.any isForbidden then none else some ascii

end ExtensionCatalogue.Domain
