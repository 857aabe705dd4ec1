import ExtensionCatalogue.Net.Ipv6

/-!
# URLs

A URL in its normal form: every part is stored as it is written. A URL is rootless when it has
neither an authority nor a path that starts with a slash, such as `mailto:` addresses; nothing
can be resolved against it.
-/

namespace ExtensionCatalogue

inductive Host where
  | name (text : String)
  | ipv4 (address : Ipv4)
  | ipv6 (address : Ipv6)
  deriving DecidableEq, Repr

def Host.text : Host → String
  | name s => s
  | ipv4 a => a.text
  | ipv6 a => "[" ++ a.text ++ "]"

/-- The part between `//` and the path. A default port is not kept. -/
structure Authority where
  userName : String
  password : Option String
  host : Host
  port : Option Nat
  deriving DecidableEq, Repr

namespace Authority

def hasCredentials (a : Authority) : Bool := !a.userName.isEmpty || a.password.isSome

def credentials (a : Authority) : String :=
  a.userName ++
  (match a.password with
    | some p => ":" ++ p
    | none => "") ++
  (if a.hasCredentials then "@" else "")

def text (a : Authority) : String :=
  a.credentials ++ a.host.text ++
  (match a.port with
    | some n => ":" ++ toString n
    | none => "")

end Authority

structure Url where
  scheme : String
  authority : Option Authority
  path : String
  query : Option String
  fragment : Option String
  deriving DecidableEq, Repr

namespace Url

def isRootless (u : Url) : Bool :=
  u.authority.isNone && !u.path.startsWith "/"

/-- The text of a URL. A path that starts with two slashes is marked where it could be taken for
an authority. -/
def text (u : Url) : String :=
  u.scheme ++ ":" ++
  (match u.authority with
    | some a => "//" ++ a.text
    | none => if u.path.startsWith "//" then "/." else "") ++
  u.path ++
  (match u.query with
    | some q => "?" ++ q
    | none => "") ++
  (match u.fragment with
    | some f => "#" ++ f
    | none => "")

/-- The schemes whose URLs always have a host and a path. -/
inductive Family where
  | file
  | special
  | other
  deriving DecidableEq, Repr

def Family.ofScheme (s : String) : Family :=
  if s = "file" then .file
  else if s ∈ ["http", "https", "ws", "wss", "ftp"] then .special
  else .other

/-- In these schemes a backslash counts as a slash. -/
def Family.isSpecial : Family → Bool
  | other => false
  | _ => true

def defaultPort? (scheme : String) : Option Nat :=
  if scheme = "http" ∨ scheme = "ws" then some 80
  else if scheme = "https" ∨ scheme = "wss" then some 443
  else if scheme = "ftp" then some 21
  else none

/-- Why a text is no URL. -/
inductive Problem where
  | emptyHost
  | internationalName
  | port
  | ipv4
  | ipv6
  | hostCharacter
  | noBase
  | rootlessBase
  deriving DecidableEq, Repr

def Problem.text : Problem → String
  | emptyHost => "empty host"
  | internationalName => "invalid international domain name"
  | port => "invalid port number"
  | ipv4 => "invalid IPv4 address"
  | ipv6 => "invalid IPv6 address"
  | hostCharacter => "invalid domain character"
  | noBase => "relative URL without a base"
  | rootlessBase => "relative URL with a cannot-be-a-base base"

/-! ## Characters that a part may not hold -/

def isControl (c : Char) : Bool := c.toNat < 0x20 || c.toNat == 0x7F

def inFragment (c : Char) : Bool := isControl c || c ∈ [' ', '"', '<', '>', '\x60']

def inPath (c : Char) : Bool := inFragment c || c ∈ ['#', '?', '\x7b', '\x7d']

def inUserInfo (c : Char) : Bool :=
  inPath c || c ∈ ['/', ':', ';', '=', '@', '[', '\\', ']', '^', '|']

def inQuery (c : Char) : Bool := isControl c || c ∈ [' ', '"', '#', '<', '>']

def inSpecialQuery (c : Char) : Bool := inQuery c || c == '\x27'

end Url

end ExtensionCatalogue
