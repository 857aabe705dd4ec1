import ExtensionCatalogue.Catalog.Bundled
import ExtensionCatalogue.Notice
import ExtensionCatalogue.Package.Wire
import ExtensionCatalogue.Text.Blank

/-!
# Catalogues

A catalogue is the fixed list of packages that a server publishes, each id once.
-/

namespace ExtensionCatalogue

structure Catalog where
  packages : List Package
  deriving DecidableEq, Repr

namespace Catalog

/-- The packages whose ids are not among `seen` and not repeated, and a notice for each other. -/
def keepFirst (seen : List String) : List Package → List Package × List Notice
  | [] => ([], [])
  | p :: ps =>
    if p.id ∈ seen then
      let (kept, notices) := keepFirst seen ps
      (kept, .duplicateEntry p.id :: notices)
    else
      let (kept, notices) := keepFirst (p.id :: seen) ps
      (p :: kept, notices)

/-- The catalogue of the first package of each id. -/
def ofPackages (ps : List Package) : Catalog × List Notice :=
  let (kept, notices) := keepFirst [] ps
  (⟨kept⟩, notices)

/-- The catalogue that comes with the program. -/
def bundled : Catalog := (ofPackages bundledPackages).1

/-- The packages that match a keyword, in order. Outer blanks and letter case do not matter, and
an empty keyword matches everything. -/
def search (c : Catalog) (keyword : String) : List Package :=
  c.packages.filter (·.isMatch (Text.lowercase (Text.trim keyword)))

def find? (c : Catalog) (id : String) : Option Package :=
  c.packages.find? (·.id == id)

def size (c : Catalog) : Nat := c.packages.length

def isEmpty (c : Catalog) : Bool := c.packages.isEmpty

/-- Why there is no catalogue. -/
inductive Problem where
  /-- The text is no JSON array of packages. -/
  | malformed
  | unreadableFile (path : String)
  | malformedFile (path : String)
  deriving DecidableEq, Repr

/-- What a catalogue has to be. -/
def requirement : String := "Catalogue must be a JSON array of packages"

/-- What failed, from the outside in. -/
def Problem.contexts : Problem → List String
  | malformed => [requirement]
  | unreadableFile path => ["Failed to read catalogue " ++ path]
  | malformedFile path => ["Failed to parse catalogue " ++ path, requirement]

def Problem.text (p : Problem) : String := String.intercalate ": " p.contexts

/-- The catalogue of a JSON text. -/
def read? (bs : List UInt8) : Option (Catalog × List Notice) :=
  (Package.readAll? bs).map ofPackages

/-- The catalogue of the file at `path`, where `content?` is what the file holds. A file that is
not UTF-8 cannot be read. -/
def ofFile (path : String) (content? : Option (List UInt8)) :
    Except Problem (Catalog × List Notice) :=
  match content?.filter fun bs => (Utf8.decode? bs).isSome with
  | none => .error (.unreadableFile path)
  | some bs =>
    match read? bs with
    | some result => .ok result
    | none => .error (.malformedFile path)

end Catalog

end ExtensionCatalogue
