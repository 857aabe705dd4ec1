import ExtensionCatalogue.Text.Utf8

/-!
# Request targets

The target of a request: a path with an optional query, an absolute URL, an authority alone, or
`*`. The bytes of a target are limited, but nothing in it is decoded. A fragment is cut off.
-/

namespace ExtensionCatalogue.Server

/-- A target by its parts. The path is empty only in a target that is an authority alone. -/
structure Target where
  scheme : Option (List UInt8)
  authority : Option (List UInt8)
  path : List UInt8
  query : Option (List UInt8)
  deriving DecidableEq, Repr

namespace Target

def byte (c : Char) : UInt8 := UInt8.ofNat c.toNat

def isByte (cs : List Char) (b : UInt8) : Bool := cs.any (byte · == b)

def lowerByte (b : UInt8) : UInt8 := if 0x41 ≤ b && b ≤ 0x5A then b + 0x20 else b

def isAlphanumeric (b : UInt8) : Bool := (Char.ofNat b.toNat).isAlphanum && b < 0x80

def isSchemeByte (b : UInt8) : Bool := isAlphanumeric b || isByte ['+', '-', '.', '~'] b

/-- The bytes of an authority, apart from `%`, which only user information and zones hold. -/
def isAuthorityByte (b : UInt8) : Bool :=
  isAlphanumeric b ||
    isByte ['!', '$', '&', '\x27', '(', ')', '*', '+', ',', '-', '.', ':', ';', '=', '@', '[', ']',
      '_', '~'] b

def isPathByte (b : UInt8) : Bool :=
  b == 0x21 || b == 0x22 || (0x24 ≤ b && b ≤ 0x3B) || b == 0x3D || (0x40 ≤ b && b ≤ 0x5F) ||
    0x61 ≤ b

def isQueryByte (b : UInt8) : Bool :=
  b == 0x21 || (0x24 ≤ b && b ≤ 0x3B) || b == 0x3D || 0x3F ≤ b

/-- The most bytes of a target. -/
def longest : Nat := 65534

/-- The most bytes of a scheme other than `http` and `https`. -/
def longestScheme : Nat := 64

/-- A path and a query. -/
def ofPath? (scheme authority : Option (List UInt8)) (bs : List UInt8) : Option Target :=
  let bs := bs.takeWhile (· ≠ byte '#')
  let (path, rest) := bs.span (· ≠ byte '?')
  let query := match rest with
    | _ :: query => some query
    | [] => none
  if path.all isPathByte && (query.getD []).all isQueryByte then
    some ⟨scheme, authority, if path.isEmpty then [byte '/'] else path, query⟩
  else none

/-- Where the reading of an authority stands. What stands before `@` or inside brackets does not
count for the host and port. -/
structure AuthorityState where
  colons : Nat
  opened : Bool
  closed : Bool
  percent : Bool
  deriving DecidableEq, Repr

def AuthorityState.step (s : AuthorityState) (b : UInt8) : Option AuthorityState :=
  if b = byte ':' then if 8 ≤ s.colons then none else some { s with colons := s.colons + 1 }
  else if b = byte '[' then
    if s.percent || s.opened then none else some { s with opened := true }
  else if b = byte ']' then
    if !s.opened || s.closed then none
    else some { s with closed := true, colons := 0, percent := false }
  else if b = byte '@' then some { s with colons := 0, percent := false }
  else if b = byte '%' then some { s with percent := true }
  else if isAuthorityByte b then some s
  else none

/-- Whether some bytes are an authority, possibly empty. -/
def isAuthority (bs : List UInt8) : Bool :=
  match bs.foldlM AuthorityState.step ⟨0, false, false, false⟩ with
  | none => false
  | some s => s.opened == s.closed && s.colons ≤ 1 && !s.percent && bs.getLast? != some (byte '@')

inductive SchemeResult where
  | absent
  | tooLong
  | found (scheme rest : List UInt8)

/-- The scheme before `://`, if there is one. -/
def splitScheme (bs : List UInt8) : SchemeResult :=
  match bs.span isSchemeByte with
  | (scheme, c :: s :: t :: rest) =>
    if c = byte ':' ∧ s = byte '/' ∧ t = byte '/' then
      let lower := scheme.map lowerByte
      if lower = Utf8.bytes "http" ∨ lower = Utf8.bytes "https" then .found lower rest
      else if longestScheme < scheme.length then .tooLong
      else .found scheme rest
    else .absent
  | _ => .absent

/-- The target that some bytes write. -/
def parse? (bs : List UInt8) : Option Target :=
  if longest < bs.length then none
  else
    match bs with
    | [] => none
    | [b] =>
      if b = byte '*' ∨ b = byte '/' then some ⟨none, none, [b], none⟩
      else if isAuthority [b] then some ⟨none, some [b], [], none⟩
      else none
    | b :: _ =>
      if b = byte '/' then ofPath? none none bs
      else
        match splitScheme bs with
        | .tooLong => none
        | .absent => if isAuthority bs then some ⟨none, some bs, [], none⟩ else none
        | .found scheme rest =>
          let (authority, path) := rest.span (!isByte ['/', '?', '#'] ·)
          if authority.isEmpty || !isAuthority authority then none
          else ofPath? (some scheme) (some authority) path

def bytes (t : Target) : List UInt8 :=
  (match t.scheme with
    | some s => s ++ Utf8.bytes "://"
    | none => []) ++
  t.authority.getD [] ++ t.path ++
  (match t.query with
    | some q => byte '?' :: q
    | none => [])

/-- The target as text. -/
def text (t : Target) : String := Utf8.decodeLossy t.bytes

end Target

end ExtensionCatalogue.Server
