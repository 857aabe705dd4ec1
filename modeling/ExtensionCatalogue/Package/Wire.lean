import ExtensionCatalogue.Json.Record
import ExtensionCatalogue.Json.Writer
import ExtensionCatalogue.Package

/-!
# Packages on the wire

A package travels as a JSON record. Writing leaves out an icon that is not set and a flag that is
false; reading gives every field but `id` and `name` a default, so nothing is lost.
-/

namespace ExtensionCatalogue.Package

open Json

/-- The fields of the record, in order. -/
def fieldNames : List String :=
  ["id", "name", "version", "author", "description", "tags", "iconUrl", "rating", "installs",
    "installed"]

/-- The package that a record stands for. -/
def ofValue? (v : Value) : Option Package := do
  let field ← v.fields? fieldNames
  let id ← required? Value.text? (field "id")
  let name ← required? Value.text? (field "name")
  let version ← optional? "" Value.text? (field "version")
  let author ← optional? "" Value.text? (field "author")
  let description ← optional? "" Value.text? (field "description")
  let tags ← optional? [] (Value.list? Value.text?) (field "tags")
  let iconUrl ← optional? none (Value.nullable? Value.text?) (field "iconUrl")
  let rating ← optional? Binary64.zero Value.double? (field "rating")
  let installs ← optional? 0 Value.word? (field "installs")
  let installed ← optional? false Value.boolean? (field "installed")
  return { id, name, version, author, description, tags, iconUrl, rating, installs, installed }

/-- The members of the record, where `rating` stands for the rating. -/
def membersWith (rating : Value) (p : Package) : List (String × Value) :=
  [("id", .text p.id), ("name", .text p.name), ("version", .text p.version),
    ("author", .text p.author), ("description", .text p.description),
    ("tags", .array (p.tags.map .text))] ++
  (match p.iconUrl with
    | some url => [("iconUrl", .text url)]
    | none => []) ++
  [("rating", rating), ("installs", .number (.integer p.installs.toNat))] ++
  (if p.installed then [("installed", .boolean true)] else [])

def toValue (p : Package) : Value :=
  .object (p.membersWith (.number (.real p.rating)))

/-- A single package, read directly from its text. -/
def read? (bs : List UInt8) : Option Package :=
  ((Node.read? bs).bind (Node.record? fieldNames)).bind ofValue?

/-- An array of packages, read directly from its text. -/
def readAll? (bs : List UInt8) : Option (List Package) :=
  ((Node.read? bs).bind (Node.records? fieldNames)).bind (·.mapM ofValue?)

/-- The text of a list of packages. -/
def writeAll (ps : List Package) : String :=
  (Value.array (ps.map toValue)).write

end ExtensionCatalogue.Package
