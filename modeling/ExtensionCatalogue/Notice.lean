import ExtensionCatalogue.Failure
import ExtensionCatalogue.Operation

/-!
# Notices

Everything that is reported to the log, by what happened, with its level and its text.
-/

namespace ExtensionCatalogue

inductive Level where
  | debug
  | info
  | warning
  deriving DecidableEq, Repr

def Level.name : Level → String
  | debug => "DEBUG"
  | info => "INFO"
  | warning => "WARN"

inductive Notice where
  /-- A record of a search response is no package. -/
  | malformedEntry (index : Nat)
  /-- A package of a search response has an empty id. -/
  | emptyId (index : Nat)
  /-- Some records of a search response were left out. -/
  | keptEntries (kept total : Nat)
  /-- A catalogue names a package again. -/
  | duplicateEntry (id : String)
  /-- A search response names a package again. -/
  | duplicateResult (id : String)
  /-- An install has come this far. -/
  | progress (name : String) (percent : Nat)
  /-- No route leads to this target. -/
  | unrouted (target : String)
  | searched (keyword : String) (count : Nat)
  | malformedSearch
  | answered (operation : Operation) (id : String)
  | unknownExtension (id : String)
  | operationWithoutId
  | malformedOperation
  | searchFired (keyword : String) (generation : Nat)
  /-- A reply to a search that is no longer the latest. -/
  | searchStale (keyword : String) (generation latest : Nat)
  | searchUnreadable (keyword cause : String)
  | searchFailed (keyword : String) (failure : Failure)
  /-- A request for a package that is busy with `running`. -/
  | ignoredBusy (operation : Operation) (id : String) (running : Operation)
  | ignoredUnknown (operation : Operation) (id : String)
  | ignoredInPlace (operation : Operation) (id : String)
  | started (operation : Operation) (id : String)
  | finished (operation : Operation) (id : String)
  /-- A package was no longer in the registry when its operation completed. -/
  | departed (operation : Operation) (id : String)
  | failed (operation : Operation) (id : String) (failure : Failure)
  /-- A completed operation that nobody waited for. -/
  | unexpected (operation : Operation) (id : String)
  | stopped (inFlight : Nat)
  deriving DecidableEq, Repr

namespace Notice

def level : Notice → Level
  | malformedEntry _ | emptyId _ | duplicateEntry _ | duplicateResult _ | unknownExtension _
  | searchUnreadable _ _ | searchFailed _ _ | failed _ _ _ | unexpected _ _ => .warning
  | progress _ _ | searched _ _ | answered _ _ | started _ _ | finished _ _ => .info
  | keptEntries _ _ | unrouted _ | malformedSearch | operationWithoutId | malformedOperation
  | searchFired _ _ | searchStale _ _ _ | ignoredBusy _ _ _ | ignoredUnknown _ _
  | ignoredInPlace _ _ | departed _ _ | stopped _ => .debug

def text : Notice → String
  | malformedEntry index => s!"Dropping malformed catalogue entry {index}"
  | emptyId index => s!"Dropping catalogue entry {index} with empty id"
  | keptEntries kept total => s!"Kept {kept} of {total} catalogue entries"
  | duplicateEntry id => s!"Duplicate catalogue id '{id}' ignored"
  | duplicateResult id => s!"Ignoring duplicate package id '{id}' in search response"
  | progress name percent => s!"{name}: {percent}%"
  | unrouted target => s!"No route for {target}"
  | searched keyword count => s!"Search '{keyword}': {count} result(s)"
  | malformedSearch => "Malformed search query"
  | answered operation id => s!"{operation.ongoing} extension: {id}"
  | unknownExtension id => s!"Unknown extension id: {id}"
  | operationWithoutId => "Operation request without an id"
  | malformedOperation => "Malformed operation query"
  | searchFired keyword generation => s!"Firing search '{keyword}' (generation {generation})"
  | searchStale keyword generation latest =>
    s!"Discarding stale search '{keyword}' (generation {generation}, latest {latest})"
  | searchUnreadable keyword cause => s!"Unreadable search response for '{keyword}': {cause}"
  | searchFailed keyword failure => s!"Search '{keyword}' failed: {failure.text}"
  | ignoredBusy operation id running =>
    s!"Ignoring {operation.name} of {id}: {running.name} already in flight"
  | ignoredUnknown operation id =>
    s!"Ignoring {operation.name} of {id}: {(Failure.notFound id).text}"
  | ignoredInPlace operation id => s!"Ignoring {operation.name} of {id}: already in target state"
  | started operation id => s!"{operation.ongoing} {id}"
  | finished operation id => s!"Finished {operation.name} of {id}"
  | departed operation id => s!"{id} left the registry before its {operation.name} completed"
  | failed operation id failure => s!"{operation.name} of {id} failed: {failure.text}"
  | unexpected operation id => s!"Completion for {operation.name} of {id} with no pending entry"
  | stopped inFlight => s!"Sync controller stopped ({inFlight} operation(s) still in flight)"

/-- The line of the log. -/
def line (n : Notice) : String := n.level.name ++ " " ++ n.text

end Notice

end ExtensionCatalogue
