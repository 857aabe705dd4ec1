import ExtensionCatalogue.Number.Decimal
import ExtensionCatalogue.Json.Value

/-!
# JSON text of values

The compact text of a value: no blanks, members in the order of the object, quotes, backslashes
and control characters escaped and all else as it is. A number that JSON cannot hold is `null`.
-/

namespace ExtensionCatalogue.Json

/-- How a character stands in a string literal. -/
def escapeChar (c : Char) : List Char :=
  if c = '"' then ['\\', '"']
  else if c = '\\' then ['\\', '\\']
  else if c = '\x08' then ['\\', 'b']
  else if c = '\x0c' then ['\\', 'f']
  else if c = '\n' then ['\\', 'n']
  else if c = '\r' then ['\\', 'r']
  else if c = '\t' then ['\\', 't']
  else if c.toNat < 0x20 then
    ['\\', 'u', '0', '0', Digit.lower (c.toNat / 16), Digit.lower (c.toNat % 16)]
  else [c]

/-- A string literal. -/
def quote (s : String) : List Char :=
  '"' :: (s.toList.flatMap escapeChar ++ ['"'])

def Number.chars : Number → List Char
  | .integer i => if i < 0 then '-' :: digitChars i.natAbs else digitChars i.natAbs
  | .real x => if x.isFinite then x.chars .wire else "null".toList

mutual

def Value.chars : Value → List Char
  | .null => "null".toList
  | .boolean b => if b then "true".toList else "false".toList
  | .number n => n.chars
  | .text s => quote s
  | .array [] => ['[', ']']
  | .array (v :: vs) => '[' :: (v.chars ++ moreItems vs)
  | .object [] => ['\x7b', '\x7d']
  | .object ((key, v) :: ms) => '\x7b' :: (quote key ++ ':' :: (v.chars ++ moreMembers ms))

/-- The items after the first one, and the end of the array. -/
def moreItems : List Value → List Char
  | [] => [']']
  | v :: vs => ',' :: (v.chars ++ moreItems vs)

/-- The members after the first one, and the end of the object. -/
def moreMembers : List (String × Value) → List Char
  | [] => ['\x7d']
  | (key, v) :: ms => ',' :: (quote key ++ ':' :: (v.chars ++ moreMembers ms))

end

/-- The text of a value. -/
def Value.write (v : Value) : String := String.ofList v.chars

end ExtensionCatalogue.Json
