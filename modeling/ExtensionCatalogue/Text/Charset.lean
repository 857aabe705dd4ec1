import ExtensionCatalogue.Text.Utf8

/-!
# Charsets

A charset says which text a byte string is. It is named beside the bytes, but a byte order mark at
their start overrides it: UTF-8, or UTF-16 with either byte first. The mark is not part of the text.
Whatever the bytes, they have a text: what is ill-formed is written as U+FFFD.
-/

namespace ExtensionCatalogue

namespace Utf16

/-- The units of a byte string, each joined from two bytes, and whether a byte is left over. -/
def units (join : UInt8 → UInt8 → Nat) : List UInt8 → List Nat × Bool
  | [] => ([], false)
  | [_] => ([], true)
  | a :: b :: bs =>
    let (us, isOdd) := units join bs
    (join a b :: us, isOdd)

/-- The character of a unit that is not the first of two surrogates. -/
def charLossy (u : Nat) : Char :=
  if 0xDC00 ≤ u ∧ u < 0xE000 then '\uFFFD' else Char.ofNat u

/-- The characters of some units, with a byte left over or not. What the end leaves incomplete is
one ill-formed piece, whether it is a first surrogate, a single byte or both. -/
def charsLossy (isOdd : Bool) : List Nat → List Char
  | [] => if isOdd then ['\uFFFD'] else []
  | [u] =>
    if 0xD800 ≤ u ∧ u < 0xDC00 then ['\uFFFD']
    else charLossy u :: charsLossy isOdd []
  | u :: v :: us =>
    if 0xD800 ≤ u ∧ u < 0xDC00 then
      if 0xDC00 ≤ v ∧ v < 0xE000 then
        Char.ofNat (0x10000 + (u - 0xD800) * 0x400 + (v - 0xDC00)) :: charsLossy isOdd us
      else '\uFFFD' :: charsLossy isOdd (v :: us)
    else charLossy u :: charsLossy isOdd (v :: us)

def decodeLossy (join : UInt8 → UInt8 → Nat) (bs : List UInt8) : String :=
  let (us, isOdd) := units join bs
  String.ofList (charsLossy isOdd us)

end Utf16

/-- What a charset makes of bytes without a mark. -/
structure Charset where
  decode : List UInt8 → String

namespace Charset

def utf8 : Charset := ⟨Utf8.decodeLossy⟩

def utf16BigEndian : Charset := ⟨Utf16.decodeLossy fun a b => a.toNat * 256 + b.toNat⟩

def utf16LittleEndian : Charset := ⟨Utf16.decodeLossy fun a b => b.toNat * 256 + a.toNat⟩

/-- The code points that windows-1252 has for the bytes from 0x80 to 0x9F. -/
def windows1252Codes : List Nat :=
  [0x20AC, 0x81, 0x201A, 0x0192, 0x201E, 0x2026, 0x2020, 0x2021, 0x02C6, 0x2030, 0x0160, 0x2039,
    0x0152, 0x8D, 0x017D, 0x8F, 0x90, 0x2018, 0x2019, 0x201C, 0x201D, 0x2022, 0x2013, 0x2014,
    0x02DC, 0x2122, 0x0161, 0x203A, 0x0153, 0x9D, 0x017E, 0x0178]

/-- The charset that the web means by `iso-8859-1` too. -/
def windows1252 : Charset :=
  ⟨fun bs => String.ofList (bs.map fun b =>
    Char.ofNat (if 0x80 ≤ b ∧ b < 0xA0 then windows1252Codes.getD (b.toNat - 0x80) 0 else b.toNat))⟩

/-- The text of a byte string that is said to be in a charset. -/
def text (c : Charset) : List UInt8 → String
  | 0xEF :: 0xBB :: 0xBF :: bs => utf8.decode bs
  | 0xFE :: 0xFF :: bs => utf16BigEndian.decode bs
  | 0xFF :: 0xFE :: bs => utf16LittleEndian.decode bs
  | bs => c.decode bs

/-- A pair of surrogates, then a first surrogate without its second and a byte that is left over. -/
example : utf8.text [0xFF, 0xFE, 0x3D, 0xD8, 0x00, 0xDE, 0x3D, 0xD8, 0x41] = "😀\uFFFD" := by
  decide +kernel
example : windows1252.text [0x80, 0xE9] = "€é" := by decide +kernel

end Charset

end ExtensionCatalogue
