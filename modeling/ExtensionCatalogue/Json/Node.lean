import ExtensionCatalogue.Json.Token

/-!
# JSON syntax trees

Tokens to a tree, with an explicit stack of the containers under way, so that the tree may be
nested to any depth. A node keeps its literals and numerals as written.
-/

namespace ExtensionCatalogue.Json

inductive Node where
  | null
  | boolean (b : Bool)
  | number (m : Numeral)
  | text (l : Literal)
  | array (items : List Node)
  | object (members : List (Literal × Node))
  deriving Repr

/-- A container under way, the latest item first. An object holds the key whose value is due. -/
inductive Frame where
  | array (items : List Node)
  | object (members : List (Literal × Node)) (key : Literal)

/-- What may follow in a text, where `members` are those of the innermost object. -/
inductive Expectation where
  | value
  | firstItem
  | firstKey
  | key (members : List (Literal × Node))
  | colon (members : List (Literal × Node)) (key : Literal)
  | moreItems (items : List Node)
  | moreMembers (members : List (Literal × Node))
  | nothing (root : Node)

/-- The containers around the place that is read, the innermost first, and what may follow. -/
structure Builder where
  frames : List Frame
  expected : Expectation

namespace Builder

/-- A complete node, put into the container around it. -/
def complete (frames : List Frame) (n : Node) : Builder :=
  match frames with
  | [] => ⟨[], .nothing n⟩
  | .array items :: rest => ⟨rest, .moreItems (n :: items)⟩
  | .object members key :: rest => ⟨rest, .moreMembers ((key, n) :: members)⟩

/-- The first token of a value. -/
def value (frames : List Frame) : Token → Option Builder
  | .null => some (complete frames .null)
  | .boolean b => some (complete frames (.boolean b))
  | .number m => some (complete frames (.number m))
  | .text l => some (complete frames (.text l))
  | .openArray => some ⟨frames, .firstItem⟩
  | .openObject => some ⟨frames, .firstKey⟩
  | _ => none

def step (b : Builder) (t : Token) : Option Builder :=
  match b.expected, t with
  | .value, t => value b.frames t
  | .firstItem, .closeArray => some (complete b.frames (.array []))
  | .firstItem, t => value (.array [] :: b.frames) t
  | .firstKey, .closeObject => some (complete b.frames (.object []))
  | .firstKey, .text l => some ⟨b.frames, .colon [] l⟩
  | .key members, .text l => some ⟨b.frames, .colon members l⟩
  | .colon members key, .colon => some ⟨.object members key :: b.frames, .value⟩
  | .moreItems items, .comma => some ⟨.array items :: b.frames, .value⟩
  | .moreItems items, .closeArray => some (complete b.frames (.array items.reverse))
  | .moreMembers members, .comma => some ⟨b.frames, .key members⟩
  | .moreMembers members, .closeObject => some (complete b.frames (.object members.reverse))
  | _, _ => none

def finish? (b : Builder) : Option Node :=
  match b.expected with
  | .nothing n => some n
  | _ => none

end Builder

/-- The tree of a sequence of tokens. -/
def Node.ofTokens? (ts : List Token) : Option Node :=
  (ts.foldlM Builder.step ⟨[], .value⟩).bind Builder.finish?

/-- The tree of a JSON text. -/
def Node.read? (bs : List UInt8) : Option Node :=
  (tokens? bs).bind Node.ofTokens?

end ExtensionCatalogue.Json
