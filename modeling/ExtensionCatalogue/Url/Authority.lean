import ExtensionCatalogue.Url.Host

/-!
# Authorities

The part of a URL between its two slashes and its path: a user name and a password before the last
`@`, a host, and a port after the first colon outside brackets.
-/

namespace ExtensionCatalogue.Authority

/-- The authority of a URL without a host. -/
def hostless : Authority := ⟨"", none, .name "", none⟩

/-- The text before the first colon that is not inside brackets, and the rest. -/
def splitHost (inside : Bool) : List Char → List Char × List Char
  | [] => ([], [])
  | c :: cs =>
    if c = ':' && !inside then ([], c :: cs)
    else
      let (host, rest) := splitHost (if c = '[' then true else if c = ']' then false else inside) cs
      (c :: host, rest)

/-- The text before the last `@`, if there is one, and the text after it. -/
def splitUser (cs : List Char) : Option (List Char) × List Char :=
  match cs.reverse.span (· ≠ '@') with
  | (rest, _ :: user) => (some user.reverse, rest.reverse)
  | (_, []) => (none, cs)

/-- The user name and the password, encoded. An empty password is none. -/
def userInfo (cs : List Char) : String × Option String :=
  let (name, rest) := cs.span (· ≠ ':')
  let password := rest.drop 1
  (String.ofList (Percent.encode Url.inUserInfo name),
    if password.isEmpty then none
    else some (String.ofList (Percent.encode Url.inUserInfo password)))

/-- A port and what follows its digits, which is nothing or starts with a backslash. The default
port of the scheme is left out. -/
def port? (scheme : String) (cs : List Char) : Except Url.Problem (Option Nat × List Char) :=
  let (digits, rest) := cs.span Char.isDigit
  let n := digits.foldl (fun n c => n * 10 + (c.toNat - 48)) 0
  if 65535 < n ∨ (rest ≠ [] ∧ rest.head? ≠ some '\\') then .error .port
  else if digits.isEmpty ∨ Url.defaultPort? scheme = some n then .ok (none, rest)
  else .ok (some n, rest)

/-- The authority that a text starts with, and the rest of it. `followed` says whether a query or
a fragment follows the text. -/
def read (scheme : String) (followed : Bool) (cs : List Char) :
    Except Url.Problem (Authority × List Char) := do
  let special := (Url.Family.ofScheme scheme).isSpecial
  let (front, path) := cs.span fun c => !(c == '/' || (special && c == '\\'))
  let (user?, rest) := splitUser front
  if user? = some [] ∧ rest = [] ∧ (followed ∨ path ≠ []) then throw .emptyHost
  let (userName, password) := userInfo (user?.getD [])
  let (hostText, rest) := splitHost false rest
  if hostText.isEmpty ∧ (special ∨ rest ≠ []) then throw .emptyHost
  let host ← if special then Host.ofChars hostText else Host.asWritten hostText
  let (port, rest) ← port? scheme (rest.drop 1)
  let a : Authority := ⟨userName, password, host, port⟩
  if hostText.isEmpty ∧ a.hasCredentials then throw .emptyHost
  return (a, rest ++ path)

end ExtensionCatalogue.Authority
