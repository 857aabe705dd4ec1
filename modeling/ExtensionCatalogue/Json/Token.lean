import ExtensionCatalogue.Text.Utf8
import ExtensionCatalogue.Json.Numeral
import ExtensionCatalogue.Number.Digit

/-!
# JSON tokens

Bytes to tokens, one piece of text at a time. A string literal keeps its units as written,
because what a literal may hold depends on whether it is read or only skipped: `Literal.text?`
joins surrogate escapes and refuses lone ones and bytes that are not UTF-8. A stretch of other
characters must be a numeral, `true`, `false` or `null`.
-/

namespace ExtensionCatalogue.Json

/-- One unit of a string literal: a character, a `\u` escape, or bytes that are not UTF-8. -/
inductive LiteralUnit where
  | char (c : Char)
  | escape (code : Nat)
  | ill (bytes : List UInt8)
  deriving DecidableEq, Repr

abbrev Literal := List LiteralUnit

/-- The characters of a literal, if its escapes form characters and its bytes are UTF-8. -/
def Literal.chars? : Literal → Option (List Char)
  | [] => some []
  | .char c :: us => (chars? us).map (c :: ·)
  | .ill _ :: _ => none
  | .escape high :: .escape low :: us =>
    if 0xD800 ≤ high ∧ high < 0xDC00 then
      if 0xDC00 ≤ low ∧ low < 0xE000 then
        (chars? us).map
          (Char.ofNat (0x10000 + (high - 0xD800) * 0x400 + (low - 0xDC00)) :: ·)
      else none
    else if 0xDC00 ≤ high ∧ high < 0xE000 then none
    else (chars? (.escape low :: us)).map (Char.ofNat high :: ·)
  | .escape code :: us =>
    if 0xD800 ≤ code ∧ code < 0xE000 then none else (chars? us).map (Char.ofNat code :: ·)

/-- The text of a literal. -/
def Literal.text? (l : Literal) : Option String :=
  (Literal.chars? l).map String.ofList

inductive Token where
  | openArray
  | closeArray
  | openObject
  | closeObject
  | comma
  | colon
  | null
  | boolean (b : Bool)
  | number (m : Numeral)
  | text (l : Literal)
  deriving DecidableEq, Repr

namespace Token

/-- The token of a single character. -/
def punctuation? : Char → Option Token
  | '[' => some openArray
  | ']' => some closeArray
  | '{' => some openObject
  | '}' => some closeObject
  | ',' => some comma
  | ':' => some colon
  | _ => none

/-- The blanks between tokens. -/
def isBlank (c : Char) : Bool :=
  c == ' ' || c == '\t' || c == '\r' || c == '\n'

/-- The token of a stretch of characters that are neither blanks, punctuation nor quotes. -/
def ofWord? (cs : List Char) : Option Token :=
  if cs = ['t', 'r', 'u', 'e'] then some (boolean true)
  else if cs = ['f', 'a', 'l', 's', 'e'] then some (boolean false)
  else if cs = ['n', 'u', 'l', 'l'] then some null
  else (Numeral.ofChars? cs).map number

end Token

/-- What a lexer is in the middle of, with the latest characters or units first. -/
inductive LexMode where
  | between
  | word (chars : List Char)
  | text (units : Literal)
  | backslash (units : Literal)
  | escape (units : Literal) (due : Nat) (code : Nat)
  deriving DecidableEq, Repr

/-- The tokens read so far, the latest first, and what follows them. -/
structure Lexer where
  tokens : List Token
  mode : LexMode
  deriving DecidableEq, Repr

/-- The character that a short escape stands for. -/
def shortEscape? : Char → Option Char
  | '"' => some '"'
  | '\\' => some '\\'
  | '/' => some '/'
  | 'b' => some '\x08'
  | 'f' => some '\x0c'
  | 'n' => some '\n'
  | 'r' => some '\r'
  | 't' => some '\t'
  | _ => none

namespace Lexer

/-- The start of a token. -/
def start (tokens : List Token) (c : Char) : Lexer :=
  if Token.isBlank c then ⟨tokens, .between⟩
  else if c = '"' then ⟨tokens, .text []⟩
  else match Token.punctuation? c with
    | some t => ⟨t :: tokens, .between⟩
    | none => ⟨tokens, .word [c]⟩

/-- Whether a character ends a word. -/
def endsWord (c : Char) : Bool :=
  Token.isBlank c || c == '"' || (Token.punctuation? c).isSome

/-- One character outside string literals, or inside one. -/
def stepChar (l : Lexer) (c : Char) : Option Lexer :=
  match l.mode with
  | .between => some (start l.tokens c)
  | .word cs =>
    if endsWord c then (Token.ofWord? cs.reverse).map fun t => start (t :: l.tokens) c
    else some ⟨l.tokens, .word (c :: cs)⟩
  | .text us =>
    if c = '"' then some ⟨.text us.reverse :: l.tokens, .between⟩
    else if c = '\\' then some ⟨l.tokens, .backslash us⟩
    else if c.toNat < 0x20 then none
    else some ⟨l.tokens, .text (.char c :: us)⟩
  | .backslash us =>
    if c = 'u' then some ⟨l.tokens, .escape us 4 0⟩
    else (shortEscape? c).map fun d => ⟨l.tokens, .text (.char d :: us)⟩
  | .escape us due code =>
    (Digit.value? 16 c).map fun d =>
      if due = 1 then ⟨l.tokens, .text (.escape (code * 16 + d) :: us)⟩
      else ⟨l.tokens, .escape us (due - 1) (code * 16 + d)⟩

/-- One piece of text. Bytes that are not UTF-8 may stand in a string literal only. -/
def step (l : Lexer) : Utf8.Piece → Option Lexer
  | .char c => l.stepChar c
  | .ill bs => match l.mode with
    | .text us => some ⟨l.tokens, .text (.ill bs :: us)⟩
    | _ => none

/-- The tokens in order, if the text does not end inside one. -/
def finish? (l : Lexer) : Option (List Token) :=
  match l.mode with
  | .between => some l.tokens.reverse
  | .word cs => (Token.ofWord? cs.reverse).map fun t => (t :: l.tokens).reverse
  | _ => none

end Lexer

/-- The tokens of a byte string. -/
def tokens? (bs : List UInt8) : Option (List Token) :=
  ((Utf8.pieces bs).foldlM Lexer.step ⟨[], .between⟩).bind Lexer.finish?

example : tokens? (Utf8.bytes "[1,\"a\\u00e9\" ]") =
    some [.openArray, .number ⟨false, ['1'], none, none⟩, .comma,
      .text [.char 'a', .escape 0xE9], .closeArray] := by decide +kernel

end ExtensionCatalogue.Json
