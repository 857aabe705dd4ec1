import ExtensionCatalogue.Number.Binary64
import ExtensionCatalogue.Text.Lowercase
import ExtensionCatalogue.Text.Substring

/-!
# Packages

A package is one installable extension of a catalogue. Only its `installed` flag ever changes on
the client's side; everything else is as the server published it.
-/

namespace ExtensionCatalogue

structure Package where
  id : String
  name : String
  version : String
  author : String
  description : String
  tags : List String
  iconUrl : Option String
  rating : Binary64
  installs : UInt64
  installed : Bool
  deriving DecidableEq, Repr, Inhabited

namespace Package

/-- The highest rating on display. -/
def highestRating : Binary64 := ⟨0x4014000000000000⟩

example : highestRating = .ofNat 5 := by decide +kernel

/-- The rating moved into the range on display; no rating at all counts as zero. -/
def displayRating (p : Package) : Binary64 :=
  if p.rating.isNaN then .zero else p.rating.clampTo highestRating

/-- The texts that a search looks at. -/
def searchable (p : Package) : List String :=
  p.name :: p.description :: p.author :: p.tags

/-- Whether a lower-case needle occurs in one of the searched texts, whatever their case. -/
def isMatch (p : Package) (needle : String) : Bool :=
  needle.isEmpty || p.searchable.any fun s => Text.occurs needle.toList (Text.lowercase s).toList

end Package

end ExtensionCatalogue
