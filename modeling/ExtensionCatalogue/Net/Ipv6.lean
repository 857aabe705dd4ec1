import ExtensionCatalogue.Net.Ipv4

/-!
# IPv6 addresses

Eight groups of sixteen bits. The text leaves out the longest run of at least two zero groups, the
first one of equal length.
-/

namespace ExtensionCatalogue

structure Ipv6 where
  groups : List Nat
  deriving DecidableEq, Repr

namespace Ipv6

/-- Start and length of the first longest run of zeros in `gs`, which starts at index `i`; the
run that ends before `i` has length `current`. -/
def longestZeros (i current : Nat) (best : Nat × Nat) : List Nat → Nat × Nat
  | [] => best
  | g :: gs =>
    if g = 0 then
      let current := current + 1
      longestZeros (i + 1) current
        (if best.2 < current then (i + 1 - current, current) else best) gs
    else longestZeros (i + 1) 0 best gs

def hex (n : Nat) : String := String.ofList (Nat.toDigits 16 n)

def joined (gs : List Nat) : String := String.intercalate ":" (gs.map hex)

/-- The groups in hexadecimal, with the longest run of zeros left out. -/
def text (a : Ipv6) : String :=
  let (start, length) := longestZeros 0 0 (0, 0) a.groups
  if length < 2 then joined a.groups
  else joined (a.groups.take start) ++ "::" ++ joined (a.groups.drop (start + length))

/-- The IPv4 address inside `::ffff:0:0/96`. -/
def mapped? (a : Ipv6) : Option Ipv4 :=
  match a.groups with
  | [0, 0, 0, 0, 0, 0xFFFF, x, y] => some (Ipv4.ofOctets (x / 256) (x % 256) (y / 256) (y % 256))
  | _ => none

/-- The text with an IPv4 address inside written as such. -/
def textMixed (a : Ipv6) : String :=
  match a.mapped? with
  | some v4 => "::ffff:" ++ v4.text
  | none => a.text

/-- A group: one to four hexadecimal digits. -/
def group? (cs : List Char) : Option Nat :=
  if cs.isEmpty || 4 < cs.length then none else Digit.number? 16 cs

/-- The two groups of an IPv4 address. -/
def groupsOf (a : Ipv4) : List Nat := [a.word.toNat / 65536, a.word.toNat % 65536]

/-- The groups of a list of parts, where the last part may be an IPv4 address. -/
def groups? (v4? : List Char → Option Ipv4) : List (List Char) → Option (List Nat)
  | [] => some []
  | [p] => match group? p with
    | some g => some [g]
    | none => (v4? p).map groupsOf
  | p :: ps => do return (← group? p) :: (← groups? v4? ps)

/-- The text cut at its first `::`. -/
def splitGap : List Char → Option (List Char × List Char)
  | ':' :: ':' :: rest => some ([], rest)
  | c :: cs => (splitGap cs).map fun (a, b) => (c :: a, b)
  | [] => none

def parts (cs : List Char) : List (List Char) :=
  if cs.isEmpty then [] else cs.splitOn ':'

/-- The address that a text writes, where `v4?` reads an IPv4 address at its end. -/
def ofChars? (v4? : List Char → Option Ipv4) (cs : List Char) : Option Ipv6 :=
  match splitGap cs with
  | none => do
    let gs ← groups? v4? (parts cs)
    if gs.length = 8 then some ⟨gs⟩ else none
  | some (front, back) => do
    let gs ← (parts front).mapM group?
    let hs ← groups? v4? (parts back)
    if gs.length + hs.length < 8 then
      some ⟨gs ++ List.replicate (8 - gs.length - hs.length) 0 ++ hs⟩
    else none

example : (ofChars? Ipv4.ofChars? "::1".toList).map text = some "::1" := by decide +kernel
example : (ofChars? Ipv4.ofChars? "1:0:0:2:0:0:0:3".toList).map text = some "1:0:0:2::3" := by
  decide +kernel
example : ofChars? Ipv4.ofChars? "1::2::3".toList = none := by decide +kernel
example : (ofChars? Ipv4.ofChars? "::ffff:1.2.3.4".toList).map textMixed =
    some "::ffff:1.2.3.4" := by decide +kernel

end Ipv6

end ExtensionCatalogue
