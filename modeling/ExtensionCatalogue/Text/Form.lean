import ExtensionCatalogue.Text.Percent

/-!
# Form-encoded queries

Pairs of keys and values as `key=value`, joined by `&`, with blanks as `+` and every other
character than letters, digits and `* - . _` percent-encoded. Reading never fails: an incomplete
escape stays as it is and bytes that are not UTF-8 become U+FFFD.
-/

namespace ExtensionCatalogue.Form

def isUnreserved (c : Char) : Bool :=
  c.isAlphanum || c ∈ ['*', '-', '.', '_']

def encodeByte (b : UInt8) : List Char :=
  let c := Char.ofNat b.toNat
  if isUnreserved c then [c] else if c = ' ' then ['+'] else Percent.encodeByte b

/-- A key or a value. -/
def encode (s : String) : List Char :=
  (Utf8.bytes s).flatMap encodeByte

def encodePair (key value : String) : List Char :=
  encode key ++ '=' :: encode value

/-- The text of an encoded key or value. -/
def decode (bs : List UInt8) : String :=
  Utf8.decodeLossy (Percent.decode (bs.map fun b => if b = 0x2B then 0x20 else b))

/-- The pairs of a query, in order. A piece without `=` is a key with an empty value, and an empty
piece is nothing. -/
def pairs (query : List UInt8) : List (String × String) :=
  ((query.splitOn 0x26).filter (!·.isEmpty)).map fun piece =>
    let (key, rest) := piece.span (· ≠ 0x3D)
    (decode key, decode (rest.drop 1))

end ExtensionCatalogue.Form
