import ExtensionCatalogue.Json.Value

/-!
# Records in JSON

A record has named fields in a fixed order. It stands as an object, where the last of equal keys
counts and unknown keys are ignored, or as an array of the fields in order, where fields at the
end may be missing.
-/

namespace ExtensionCatalogue.Json

namespace Value

/-- The values of a record's fields, if the value has the form of a record. -/
def fields? (keys : List String) : Value → Option (String → Option Value)
  | .object members => some (lookup? members)
  | .array items =>
    if items.length ≤ keys.length then some fun key => (keys.zip items).lookup key else none
  | _ => none

def text? : Value → Option String
  | .text s => some s
  | _ => none

def boolean? : Value → Option Bool
  | .boolean b => some b
  | _ => none

/-- An array whose items are all read by `item?`. -/
def list? {α : Type} (item? : Value → Option α) : Value → Option (List α)
  | .array items => items.mapM item?
  | _ => none

/-- What `read?` reads, or nothing for `null`. -/
def nullable? {α : Type} (read? : Value → Option α) : Value → Option (Option α)
  | .null => some none
  | v => (read? v).map some

/-- Any number, as a double. -/
def double? : Value → Option Binary64
  | .number (.integer i) => some (.ofInt i)
  | .number (.real x) => some x
  | _ => none

/-- An integer from zero to `2 ^ 64 - 1`. -/
def word? : Value → Option UInt64
  | .number (.integer (.ofNat n)) => if n ≤ largestWord then some (.ofNat n) else none
  | _ => none

end Value

/-- A field that must be there. -/
def required? {α : Type} (read? : Value → Option α) (v : Option Value) : Option α :=
  v.bind read?

/-- A field that has a default when it is absent, but must be readable when it is there. -/
def optional? {α : Type} (default : α) (read? : Value → Option α) : Option Value → Option α
  | none => some default
  | some v => read? v

end ExtensionCatalogue.Json
