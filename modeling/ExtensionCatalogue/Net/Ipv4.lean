import ExtensionCatalogue.Number.Digit

/-!
# IPv4 addresses

An address is a 32-bit word, written as four decimal octets. URLs also accept octal and
hexadecimal parts and addresses with fewer parts, where the last part fills the remaining octets.
-/

namespace ExtensionCatalogue

structure Ipv4 where
  word : UInt32
  deriving DecidableEq, Repr

namespace Ipv4

/-- The four octets, most significant first. -/
def octets (a : Ipv4) : List Nat :=
  let n := a.word.toNat
  [n / 0x1000000, n / 0x10000 % 256, n / 0x100 % 256, n % 256]

def ofOctets (a b c d : Nat) : Ipv4 :=
  ⟨UInt32.ofNat (((a * 256 + b) * 256 + c) * 256 + d)⟩

def text (a : Ipv4) : String :=
  String.intercalate "." (a.octets.map toString)

/-- A part of an address in a URL: decimal, octal after `0`, hexadecimal after `0x`. -/
def part? : List Char → Option Nat
  | [] => none
  | '0' :: 'x' :: cs => Digit.number? 16 cs
  | '0' :: 'X' :: cs => Digit.number? 16 cs
  | ['0'] => some 0
  | '0' :: cs => Digit.number? 8 cs
  | cs => Digit.number? 10 cs

/-- Whether the last part of a name is a number, so that the name can only be an address. -/
def endsInNumber (name : List Char) : Bool :=
  let parts := (name.splitOn '.').reverse
  let last? := match parts with
    | [] :: last :: _ => some last
    | [] :: [] => none
    | last :: _ => some last
    | [] => none
  match last? with
  | some last => (!last.isEmpty && last.all Char.isDigit) || (part? last).isSome
  | none => false

/-- The address that a name in a URL writes. -/
def ofName? (name : List Char) : Option Ipv4 := do
  let parts := name.splitOn '.'
  let parts := if parts.getLast? = some [] then parts.dropLast else parts
  let numbers ← parts.mapM part?
  let last ← numbers.getLast?
  let front := numbers.dropLast
  let range := Nat.pow 256 (4 - front.length)
  if 3 < front.length || front.any (255 < ·) || range ≤ last then none
  else
    let high := front.foldl (fun n o => n * 256 + o) 0
    return ⟨UInt32.ofNat (high * range + last)⟩

/-- An octet in plain decimal notation: one to three digits without a leading zero. -/
def octet? (cs : List Char) : Option Nat :=
  if cs.isEmpty || 3 < cs.length || (1 < cs.length && cs.head? == some '0') then none
  else (Digit.number? 10 cs).bind fun n => if n ≤ 255 then some n else none

/-- The address that four decimal octets write. -/
def ofChars? (cs : List Char) : Option Ipv4 := do
  match ← (cs.splitOn '.').mapM octet? with
  | [a, b, c, d] => return ofOctets a b c d
  | _ => none

example : (ofName? "0x7f.1".toList).map text = some "127.0.0.1" := by decide +kernel
example : ofName? "256.0.0.1".toList = none := by decide +kernel
example : ofChars? "127.0.0.01".toList = none := by decide +kernel

end Ipv4

end ExtensionCatalogue
