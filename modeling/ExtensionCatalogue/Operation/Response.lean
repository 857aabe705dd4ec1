import ExtensionCatalogue.Json.Record
import ExtensionCatalogue.Json.Writer

/-!
# Answers to operations

The body of an answered operation: a status, which is `ok` on success, and the id of the package.
-/

namespace ExtensionCatalogue

structure OperationResponse where
  status : String
  id : Option String
  deriving DecidableEq, Repr

namespace OperationResponse

open Json

def okStatus : String := "ok"

/-- The answer to a successful operation. -/
def ok (id : String) : OperationResponse := ⟨okStatus, some id⟩

def isOk (r : OperationResponse) : Bool := r.status == okStatus

def fieldNames : List String := ["status", "id"]

def ofValue? (v : Value) : Option OperationResponse := do
  let field ← v.fields? fieldNames
  let status ← required? Value.text? (field "status")
  let id ← optional? none (Value.nullable? Value.text?) (field "id")
  return { status, id }

def toValue (r : OperationResponse) : Value :=
  .object (("status", .text r.status) ::
    match r.id with
    | some id => [("id", .text id)]
    | none => [])

/-- The answer that a body holds. -/
def read? (bs : List UInt8) : Option OperationResponse :=
  ((Node.read? bs).bind (Node.record? fieldNames)).bind ofValue?

def write (r : OperationResponse) : String := r.toValue.write

end OperationResponse

end ExtensionCatalogue
