import ExtensionCatalogue.Notice
import ExtensionCatalogue.Package.Wire

/-!
# Search responses

The body of a search response is a JSON array of packages. A record that is no package, or has an
empty id, is left out with a notice, so that it does not hide the others.
-/

namespace ExtensionCatalogue.Client

open Json

/-- The packages of a response and what was noticed on the way. -/
structure Listing where
  packages : List Package
  notices : List Notice
  deriving DecidableEq, Repr

/-- The package of the record at `index`, or why it is left out. -/
def entry (index : Nat) (record : Value) : Except Notice Package :=
  match Package.ofValue? record with
  | none => .error (.malformedEntry index)
  | some p => if p.id.isEmpty then .error (.emptyId index) else .ok p

/-- The packages among the records from `index` on, and a notice for each other record. -/
def entries (index : Nat) : List Value → Listing
  | [] => ⟨[], []⟩
  | v :: vs =>
    let rest := entries (index + 1) vs
    match entry index v with
    | .ok p => { rest with packages := p :: rest.packages }
    | .error n => { rest with notices := n :: rest.notices }

/-- The packages among the records of a response. -/
def Listing.ofRecords (records : List Value) : Listing :=
  let l := entries 0 records
  let kept := l.packages.length
  if kept < records.length then
    { l with notices := l.notices ++ [.keptEntries kept records.length] }
  else l

def invalidJson : Failure := .unreadable "Invalid JSON"

def notAnArray : Failure := .unreadable "Expected a JSON array of packages"

/-- The packages of a response body. -/
def Listing.read (body : List UInt8) : Except Failure Listing :=
  match Value.read? body with
  | none => .error invalidJson
  | some (.array records) => .ok (.ofRecords records)
  | some _ => .error notAnArray

end ExtensionCatalogue.Client
