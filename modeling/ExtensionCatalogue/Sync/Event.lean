import ExtensionCatalogue.Failure
import ExtensionCatalogue.Operation
import ExtensionCatalogue.Package

/-!
# Events

What the controller tells its listeners: the two views of the registry, the progress of an
install, and a line of status for the user.
-/

namespace ExtensionCatalogue.Sync

inductive Status where
  | searching
  | found (count : Nat)
  | unreadable (cause : String)
  | searchFailed (failure : Failure)
  | started (operation : Operation) (name : String)
  | done (operation : Operation) (name : String)
  | failed (operation : Operation) (name : String) (failure : Failure)
  deriving DecidableEq, Repr

namespace Status

def text : Status → String
  | searching => "Searching…"
  | found 0 => "No extensions found."
  | found 1 => "Showing 1 result"
  | found count => s!"Showing {count} results"
  | unreadable cause => s!"Invalid catalogue response: {cause}"
  | searchFailed failure => failure.text
  | started operation name => s!"{operation.ongoing} {name} …"
  | done operation name => s!"{operation.done} {name}"
  | failed operation name failure => s!"{operation.noun} of {name} failed: {failure.text}"

def isError : Status → Bool
  | unreadable _ | searchFailed _ | failed _ _ _ => true
  | _ => false

end Status

inductive Event where
  | registryChanged (installed recommended : List Package)
  | status (s : Status)
  | progress (id : String) (percent : Nat)
  deriving DecidableEq, Repr

end ExtensionCatalogue.Sync
