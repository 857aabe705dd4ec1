import ExtensionCatalogue.Toml.Text

/-!
# Reading TOML

A document is a sequence of lines: comments, headers in brackets and assignments. Arrays may go
over several lines; inline tables may not. Containers are nested up to a limit.
-/

namespace ExtensionCatalogue.Toml

/-- The most containers inside one another. -/
def deepest : Nat := 79

def isCommentChar (c : Char) : Bool := c == '\t' || 0x20 ≤ c.toNat

/-- A comment without its line end, if one starts here. -/
def skipComment : List Char → List Char
  | '#' :: cs => cs.dropWhile isCommentChar
  | cs => cs

/-- The end of a statement: spaces, a comment, and the end of the line or of the text. -/
def endOfLine? (cs : List Char) : Option (List Char) :=
  match skipComment (skipSpaces cs) with
  | [] => some []
  | rest => lineEnd? rest

/-- Spaces, line ends and whole comments inside an array, at most `fuel` of them. -/
def skipBetween : Nat → List Char → Option (List Char)
  | 0, cs => some cs
  | fuel + 1, cs =>
    match skipLines cs with
    | '#' :: rest => (lineEnd? (rest.dropWhile isCommentChar)).bind (skipBetween fuel)
    | rest => some rest

def keyword (word : String) (v : Value) : Reader Value := fun cs =>
  if word.toList.isPrefixOf cs then some (v, cs.drop word.length) else none

mutual

/-- A value inside `depth` more containers at most. Every step takes `fuel`, and twice the length
of the text is enough. -/
def value (fuel depth : Nat) (cs : List Char) : Option (Value × List Char) :=
  match fuel with
  | 0 => none
  | fuel + 1 =>
    match cs with
    | [] => none
    | c :: rest =>
      if c = '"' ∨ c = '\x27' then (text cs).map fun (s, rest) => (.text (String.ofList s), rest)
      else if c = '[' then
        match depth with
        | 0 => none
        | depth + 1 => do
          let (items, rest) ← arrayItems fuel depth rest
          return (.array items, rest)
      else if c = '\x7b' then
        match depth with
        | 0 => none
        | depth + 1 =>
          match skipSpaces rest with
          | '\x7d' :: rest => some (.table .inline [], rest)
          | rest => do
            let (es, rest) ← inlineEntries fuel depth [] rest
            return (.table .inline es, rest)
      else if c = 't' then keyword "true" (.boolean true) cs
      else if c = 'f' then keyword "false" (.boolean false) cs
      else if c = 'i' ∨ c = 'n' then float cs
      else number cs

/-- The items of an array up to its end. A comma may follow the last one. -/
def arrayItems (fuel depth : Nat) (cs : List Char) : Option (List Value × List Char) :=
  match fuel with
  | 0 => none
  | fuel + 1 => do
    match ← skipBetween cs.length cs with
    | ']' :: rest => return ([], rest)
    | cs =>
      let (v, rest) ← value fuel depth cs
      match ← skipBetween rest.length rest with
      | ']' :: rest => return ([v], rest)
      | ',' :: rest =>
        let (vs, rest) ← arrayItems fuel depth rest
        return (v :: vs, rest)
      | _ => none

/-- The entries of an inline table up to its end, after `es`. -/
def inlineEntries (fuel depth : Nat) (es : Entries) (cs : List Char) :
    Option (Entries × List Char) :=
  match fuel with
  | 0 => none
  | fuel + 1 => do
    let ((front, key), rest) ← path cs
    match rest with
    | '=' :: rest =>
      let (v, rest) ← value fuel depth (skipSpaces rest)
      let es ← assign front key v .header es
      match skipSpaces rest with
      | '\x7d' :: rest => return (es, rest)
      | ',' :: rest => inlineEntries fuel depth es rest
      | _ => none
    | _ => none

end

/-- A header or an assignment, to the end of its line. -/
def statement : Reader Statement := fun cs => do
  match cs with
  | '[' :: '[' :: rest =>
    let ((front, key), rest) ← path rest
    match rest with
    | ']' :: ']' :: rest => return (.arrayHeader front key, ← endOfLine? rest)
    | _ => none
  | '[' :: rest =>
    let ((front, key), rest) ← path rest
    match rest with
    | ']' :: rest => return (.header front key, ← endOfLine? rest)
    | _ => none
  | cs =>
    let ((front, key), rest) ← path cs
    match rest with
    | '=' :: rest =>
      let rest := skipSpaces rest
      let (v, rest) ← value (2 * rest.length + 2) deepest rest
      return (.assign front key v, ← endOfLine? rest)
    | _ => none

/-- The statements of a text with at most `fuel` lines. -/
def statements : Nat → List Char → Option (List Statement)
  | 0, _ => none
  | fuel + 1, cs =>
    match skipSpaces cs with
    | [] => some []
    | '#' :: cs => (endOfLine? ('#' :: cs)).bind (statements fuel)
    | '\n' :: cs => statements fuel cs
    | '\r' :: '\n' :: cs => statements fuel cs
    | cs => do
      let (s, rest) ← statement cs
      return s :: (← statements fuel rest)

/-- The entries of a document. A byte order mark may stand at its start. -/
def parse? (s : String) : Option Entries := do
  let cs := match s.toList with
    | '\uFEFF' :: cs => cs
    | cs => cs
  let d ← Document.ofStatements? (← statements (cs.length + 1) cs)
  return d.entries

example : (parse? "[a]\nb = 1\n[a]\n").isNone = true := by decide +kernel
example : (parse? "a.b = 1\n[a]\n").isNone = true := by decide +kernel
example : (parse? "[a.b]\n[a]\nc = [1, 2, # x\n 3,]\n").isSome = true := by decide +kernel

end ExtensionCatalogue.Toml
