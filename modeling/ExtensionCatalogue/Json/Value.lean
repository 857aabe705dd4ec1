import ExtensionCatalogue.Json.Node

/-!
# JSON values

`Value.ofNode?` checks what syntax alone does not: the range of numbers, the characters of
literals and the depth of nesting. Objects keep their members as written; look-up takes the last
of equal keys. `Node.record?` reads a record directly from its text: a key that it does not know
has its value skipped unchecked, and a known key may occur only once.
-/

namespace ExtensionCatalogue.Json

inductive Value where
  | null
  | boolean (b : Bool)
  | number (n : Number)
  | text (s : String)
  | array (items : List Value)
  | object (members : List (String × Value))
  deriving Repr

/-- The number of containers that may be open at once. -/
def depthLimit : Nat := 127

/-- The value of a node with at most `depth` containers inside one another. -/
def Value.ofNode? : Nat → Node → Option Value
  | _, .null => some .null
  | _, .boolean b => some (.boolean b)
  | _, .number m => m.value?.map .number
  | _, .text l => (Literal.text? l).map .text
  | 0, .array _ => none
  | 0, .object _ => none
  | depth + 1, .array items => (items.mapM (ofNode? depth)).map .array
  | depth + 1, .object members =>
    (members.mapM fun (key, n) => do
      return (← Literal.text? key, ← ofNode? depth n)).map .object

/-- The value of a JSON text. -/
def Value.read? (bs : List UInt8) : Option Value :=
  (Node.read? bs).bind (Value.ofNode? depthLimit)

/-- The value of a key, the last one of equal keys. -/
def lookup? (members : List (String × Value)) (key : String) : Option Value :=
  (members.reverse.find? (·.1 == key)).map (·.2)

/-- Whether no key of `keys` stands twice among `names`. -/
def uniqueKeys (keys names : List String) : Bool :=
  keys.all fun key => names.count key ≤ 1

/-- The value of a record with the given keys, as it stands in a text: members with other keys
are left out, whatever their values. -/
def Node.record? (keys : List String) : Node → Option Value
  | .object members => do
    let named ← members.mapM fun (key, n) => do return (← Literal.text? key, n)
    if uniqueKeys keys (named.map (·.1)) then
      let known := named.filter fun (key, _) => keys.contains key
      let fields ← known.mapM fun (key, n) => do return (key, ← Value.ofNode? depthLimit n)
      return .object fields
    else none
  | n => Value.ofNode? depthLimit n

/-- The records of an array of them. -/
def Node.records? (keys : List String) : Node → Option (List Value)
  | .array items => items.mapM (Node.record? keys)
  | _ => none

end ExtensionCatalogue.Json
