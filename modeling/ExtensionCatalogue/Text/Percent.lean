import ExtensionCatalogue.Number.Digit
import ExtensionCatalogue.Text.Utf8

/-!
# Percent encoding

A byte as `%` and two hexadecimal digits. Each place of a URL has its own set of characters that
may not stand for themselves; whatever the set, characters above ASCII are always encoded.
-/

namespace ExtensionCatalogue.Percent

def encodeByte (b : UInt8) : List Char :=
  ['%', Digit.upper (b.toNat / 16), Digit.upper (b.toNat % 16)]

/-- A character as it stands where the characters of `reserved` may not. -/
def encodeChar (reserved : Char → Bool) (c : Char) : List Char :=
  if c.toNat < 0x80 && !reserved c then [c]
  else (Utf8.encodeChar c).flatMap encodeByte

def encode (reserved : Char → Bool) (cs : List Char) : List Char :=
  cs.flatMap (encodeChar reserved)

/-- The byte that two hexadecimal digits write. -/
def pair? (a b : UInt8) : Option UInt8 := do
  let high ← Digit.value? 16 (Char.ofNat a.toNat)
  let low ← Digit.value? 16 (Char.ofNat b.toNat)
  return UInt8.ofNat (high * 16 + low)

/-- The bytes with every complete escape undone; anything else stays as it is. -/
def decode : List UInt8 → List UInt8
  | [] => []
  | [a] => [a]
  | [a, b] => [a, b]
  | a :: b :: c :: rest =>
    if a = 0x25 then
      match pair? b c with
      | some n => n :: decode rest
      | none => a :: decode (b :: c :: rest)
    else a :: decode (b :: c :: rest)

end ExtensionCatalogue.Percent
