import ExtensionCatalogue.Operation
import ExtensionCatalogue.Table

/-!
# Pending operations

The operations in flight, at most one for each package.
-/

namespace ExtensionCatalogue.Sync

/-- An operation in flight and, for an install, how far it has come. -/
structure InFlight where
  operation : Operation
  progress : Nat
  deriving DecidableEq, Repr

abbrev Pending := Table InFlight

namespace Pending

/-- The set with a new operation, unless the package is busy. -/
def begin? (t : Pending) (id : String) (operation : Operation) : Option Pending :=
  if t.contains id then none else some (t.insert id ⟨operation, 0⟩)

/-- The percentage to publish for a report, if an install of the package is in flight and the
report does not take it back. -/
def advance? (t : Pending) (id : String) (percent : Nat) : Option (Nat × Pending) :=
  match t.get? id with
  | some ⟨.install, progress⟩ =>
    if percent < progress then none
    else
      let shown := min percent 100
      some (shown, t.insert id ⟨.install, shown⟩)
  | _ => none

/-- The operation of the package, taken out of the set. -/
def finish (t : Pending) (id : String) : Option InFlight × Pending :=
  (t.get? id, t.erase id)

end Pending

end ExtensionCatalogue.Sync
