import ExtensionCatalogue.Notice
import ExtensionCatalogue.Package
import ExtensionCatalogue.Table

/-!
# The registry

The packages of the latest search, in the order of its response, each id once, with an index from
ids to positions.
-/

namespace ExtensionCatalogue

structure Registry where
  packages : List Package
  index : Table Nat
  deriving DecidableEq, Repr

namespace Registry

def empty : Registry := ⟨[], .empty⟩

instance : Inhabited Registry := ⟨empty⟩

/-- The registry with one more package at its end. -/
def push (r : Registry) (p : Package) : Registry :=
  ⟨r.packages ++ [p], r.index.insert p.id r.packages.length⟩

/-- The registry with those of `ps` at its end whose ids are new, and a notice for each other. -/
def extend (r : Registry) : List Package → Registry × List Notice
  | [] => (r, [])
  | p :: ps =>
    if r.index.contains p.id then
      let (r, notices) := extend r ps
      (r, .duplicateResult p.id :: notices)
    else extend (r.push p) ps

/-- A registry of exactly the given packages, the first of each id. -/
def ofPackages (ps : List Package) : Registry × List Notice :=
  empty.extend ps

def get? (r : Registry) (id : String) : Option Package :=
  (r.index.get? id).bind (r.packages[·]?)

def contains (r : Registry) (id : String) : Bool :=
  r.index.contains id

/-- The registry with the flag of one package set, if the package is there. -/
def setInstalled? (r : Registry) (id : String) (value : Bool) : Option Registry :=
  (r.index.get? id).map fun i =>
    { r with packages := r.packages.modify i ({ · with installed := value }) }

def size (r : Registry) : Nat := r.packages.length

def isEmpty (r : Registry) : Bool := r.packages.isEmpty

/-- The installed packages, in order. -/
def installed (r : Registry) : List Package := r.packages.filter (·.installed)

/-- The packages that are not installed, in order. -/
def recommended (r : Registry) : List Package := r.packages.filter (!·.installed)

/-- Both views at once. -/
def views (r : Registry) : List Package × List Package := r.packages.partition (·.installed)

theorem views_eq (r : Registry) : r.views = (r.installed, r.recommended) := by
  simp only [views, installed, recommended, List.partition_eq_filter_filter]
  rfl

end Registry

end ExtensionCatalogue
