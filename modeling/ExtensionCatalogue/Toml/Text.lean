import ExtensionCatalogue.Json.Token
import ExtensionCatalogue.Toml.Scalar

/-!
# Texts and keys in TOML

Strings in quotes, on one line or in triple quotes on several, where a line end is always a single
line feed. Escapes stand only in double quotes. A key is bare or in quotes, and dots join keys to
a path.
-/

namespace ExtensionCatalogue.Toml

/-- Characters of a string apart from its quote and, in double quotes, the backslash. -/
def isTextChar (c : Char) : Bool := c == '\t' || (0x20 ≤ c.toNat && c.toNat ≠ 0x7F)

/-- The character of a code in hexadecimal digits. -/
def scalar? (n : Nat) (cs : List Char) : Option Char := do
  let front := cs.take n
  if front.length = n then
    let v ← Digit.number? 16 front
    if v.isValidChar then return Char.ofNat v else none
  else none

/-- The character after a backslash, and how many characters write it. -/
def escape? : List Char → Option (Char × Nat)
  | 'b' :: _ => some ('\x08', 1)
  | 't' :: _ => some ('\t', 1)
  | 'n' :: _ => some ('\n', 1)
  | 'f' :: _ => some ('\x0c', 1)
  | 'r' :: _ => some ('\r', 1)
  | '"' :: _ => some ('"', 1)
  | '\\' :: _ => some ('\\', 1)
  | 'u' :: cs => (scalar? 4 cs).map (·, 5)
  | 'U' :: cs => (scalar? 8 cs).map (·, 9)
  | _ => none

/-- The rest of a string on one line after its opening `quote`. `skip` characters at the start
belong to the escape before them. -/
def oneLine (quote : Char) (skip : Nat) : Reader (List Char)
  | [] => none
  | c :: cs =>
    match skip with
    | skip + 1 => oneLine quote skip cs
    | 0 =>
      if c = quote then some ([], cs)
      else if quote = '"' ∧ c = '\\' then do
        let (d, n) ← escape? cs
        let (text, rest) ← oneLine quote n cs
        return (d :: text, rest)
      else if isTextChar c then do
        let (text, rest) ← oneLine quote 0 cs
        return (c :: text, rest)
      else none

def isSpace (c : Char) : Bool := c == ' ' || c == '\t'

/-- A line end. -/
def lineEnd? : List Char → Option (List Char)
  | '\n' :: cs => some cs
  | '\r' :: '\n' :: cs => some cs
  | _ => none

/-- Spaces and line ends. -/
def skipLines : List Char → List Char
  | '\n' :: cs => skipLines cs
  | '\r' :: '\n' :: cs => skipLines cs
  | c :: cs => if isSpace c then skipLines cs else c :: cs
  | [] => []

/-- The number of spaces and line ends after a backslash that ends a line, if it ends one. -/
def continuation? (cs : List Char) : Option Nat :=
  (lineEnd? (cs.dropWhile isSpace)).map fun rest => cs.length - (skipLines rest).length

/-- The rest of a string in triple quotes. `skip` characters at the start are already read. -/
def manyLines (quote : Char) (skip : Nat) : Reader (List Char)
  | [] => none
  | c :: cs =>
    match skip with
    | skip + 1 => manyLines quote skip cs
    | 0 =>
      if c = quote then
        let run := 1 + (cs.takeWhile (· == quote)).length
        if run < 3 then do
          let (text, rest) ← manyLines quote (run - 1) cs
          return (List.replicate run quote ++ text, rest)
        else if run < 6 then some (List.replicate (run - 3) quote, cs.drop (run - 1))
        else none
      else if quote = '"' ∧ c = '\\' then
        match continuation? cs with
        | some n => manyLines quote n cs
        | none => do
          let (d, n) ← escape? cs
          let (text, rest) ← manyLines quote n cs
          return (d :: text, rest)
      else if c = '\n' ∨ (c = '\r' ∧ cs.head? = some '\n') then do
        let (text, rest) ← manyLines quote (if c = '\r' then 1 else 0) cs
        return ('\n' :: text, rest)
      else if isTextChar c then do
        let (text, rest) ← manyLines quote 0 cs
        return (c :: text, rest)
      else none

/-- A string of either quote. -/
def text : Reader (List Char)
  | a :: b :: c :: cs =>
    if a = '"' ∨ a = '\x27' then
      if a = b ∧ b = c then manyLines a 0 ((lineEnd? cs).getD cs) else oneLine a 0 (b :: c :: cs)
    else none
  | a :: cs => if a = '"' ∨ a = '\x27' then oneLine a 0 cs else none
  | [] => none

def isBareChar (c : Char) : Bool := c.isAlphanum || c == '-' || c == '_'

/-- One key. -/
def simpleKey : Reader String
  | [] => none
  | c :: cs =>
    if c = '"' ∨ c = '\x27' then (oneLine c 0 cs).map fun (k, rest) => (String.ofList k, rest)
    else
      let (k, rest) := (c :: cs).span isBareChar
      if k.isEmpty then none else some (String.ofList k, rest)

def skipSpaces (cs : List Char) : List Char := cs.dropWhile isSpace

/-- The most keys that dots may join. -/
def longestPath : Nat := 79

/-- Keys joined by dots, with the spaces around them, at most `n`. -/
def keys : Nat → Reader (List String)
  | 0, _ => none
  | n + 1, cs => do
    let (k, rest) ← simpleKey (skipSpaces cs)
    match skipSpaces rest with
    | '.' :: rest =>
      let (ks, rest) ← keys n rest
      return (k :: ks, rest)
    | rest => return ([k], rest)

/-- A path of keys, split into its last key and those before it. -/
def path : Reader (List String × String) := fun cs => do
  let (ks, rest) ← keys longestPath cs
  let last ← ks.getLast?
  return ((ks.dropLast, last), rest)

end ExtensionCatalogue.Toml
