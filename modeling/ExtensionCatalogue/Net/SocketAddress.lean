import ExtensionCatalogue.Net.Ipv6

/-!
# Socket addresses

An IP address and a port. An IPv6 address stands in brackets and may name a zone by number.
-/

namespace ExtensionCatalogue

inductive SocketAddress where
  | v4 (address : Ipv4) (port : Nat)
  | v6 (address : Ipv6) (zone : Nat) (port : Nat)
  deriving DecidableEq, Repr

namespace SocketAddress

def ipText : SocketAddress → String
  | v4 a _ => a.text
  | v6 a _ _ => a.textMixed

def port : SocketAddress → Nat
  | v4 _ p => p
  | v6 _ _ p => p

def isV6 : SocketAddress → Bool
  | v4 _ _ => false
  | v6 _ _ _ => true

def text : SocketAddress → String
  | v4 a p => s!"{a.text}:{p}"
  | v6 a 0 p => s!"[{a.textMixed}]:{p}"
  | v6 a zone p => s!"[{a.textMixed}%{zone}]:{p}"

/-- A decimal number of at least one digit, below a bound. Leading zeros are allowed. -/
def number? (bound : Nat) (cs : List Char) : Option Nat :=
  if cs.isEmpty then none
  else (Digit.number? 10 cs).bind fun n => if n < bound then some n else none

def port? (cs : List Char) : Option Nat := number? 0x10000 cs

/-- The address in brackets and its zone. -/
def zoned? (cs : List Char) : Option (Ipv6 × Nat) :=
  match cs.span (· ≠ '%') with
  | (front, _ :: zone) => do
    return (← Ipv6.ofChars? Ipv4.ofChars? front, ← number? 0x100000000 zone)
  | (front, []) => (Ipv6.ofChars? Ipv4.ofChars? front).map (·, 0)

/-- The address that a text writes. -/
def ofString? (s : String) : Option SocketAddress :=
  match s.toList with
  | '[' :: cs =>
    match cs.span (· ≠ ']') with
    | (inside, ']' :: ':' :: portText) => do
      let (a, zone) ← zoned? inside
      return v6 a zone (← port? portText)
    | _ => none
  | cs =>
    match cs.span (· ≠ ':') with
    | (front, ':' :: portText) => do return v4 (← Ipv4.ofChars? front) (← port? portText)
    | _ => none

example : (ofString? "[fe80::1%3]:080").map text = some "[fe80::1%3]:80" := by decide +kernel
example : (ofString? "1.2.3.4:65536").isNone = true := by decide +kernel

end SocketAddress

end ExtensionCatalogue
