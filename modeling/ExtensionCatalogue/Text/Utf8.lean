/-!
# UTF-8

Characters as bytes and back. Reading runs one byte at a time: a lead byte says how many
continuation bytes are due and which range the first of them may have, so surrogates, overlong
forms and values above U+10FFFF are never completed. Bytes that cannot be completed come out as
`Piece.ill`, cut as the Unicode standard recommends: the longest start of a valid sequence, or a
single byte. `decode?` refuses such bytes and `decodeLossy` writes U+FFFD for each piece.
-/

namespace ExtensionCatalogue.Utf8

/-- What stands at one place of a byte string. -/
inductive Piece where
  | char (c : Char)
  | ill (bytes : List UInt8)
  deriving DecidableEq, Repr

/-- A sequence under way: the value so far, the number of bytes due, the range of the next one
and the bytes read. -/
structure Sequence where
  value : Nat
  due : Nat
  low : UInt8
  high : UInt8
  seen : List UInt8
  deriving DecidableEq, Repr

/-- The byte `10xxxxxx` that carries the lowest six bits of `n`. -/
def continuation (n : Nat) : UInt8 :=
  UInt8.ofNat (0x80 + n % 64)

/-- The bytes of a character, lead byte first. -/
def encodeChar (c : Char) : List UInt8 :=
  let n := c.toNat
  if n < 0x80 then [UInt8.ofNat n]
  else if n < 0x800 then [UInt8.ofNat (0xC0 + n / 64), continuation n]
  else if n < 0x10000 then
    [UInt8.ofNat (0xE0 + n / 4096), continuation (n / 64), continuation n]
  else
    [UInt8.ofNat (0xF0 + n / 262144), continuation (n / 4096), continuation (n / 64),
      continuation n]

def encode (cs : List Char) : List UInt8 :=
  cs.flatMap encodeChar

/-- The bytes of a string. -/
def bytes (s : String) : List UInt8 :=
  encode s.toList

/-- The sequence that a lead byte of two, three or four bytes opens. -/
def lead? (b : UInt8) : Option Sequence :=
  let n := b.toNat
  if 0xC2 ≤ n ∧ n ≤ 0xDF then some ⟨n - 0xC0, 1, 0x80, 0xBF, [b]⟩
  else if n = 0xE0 then some ⟨0, 2, 0xA0, 0xBF, [b]⟩
  else if n = 0xED then some ⟨0xD, 2, 0x80, 0x9F, [b]⟩
  else if 0xE1 ≤ n ∧ n ≤ 0xEF then some ⟨n - 0xE0, 2, 0x80, 0xBF, [b]⟩
  else if n = 0xF0 then some ⟨0, 3, 0x90, 0xBF, [b]⟩
  else if 0xF1 ≤ n ∧ n ≤ 0xF3 then some ⟨n - 0xF0, 3, 0x80, 0xBF, [b]⟩
  else if n = 0xF4 then some ⟨4, 3, 0x80, 0x8F, [b]⟩
  else none

/-- A byte between characters: the pieces that end with it and the sequence that it opens. -/
def first (b : UInt8) : List Piece × Option Sequence :=
  if b < 0x80 then ([.char (Char.ofNat b.toNat)], none)
  else match lead? b with
    | some q => ([], some q)
    | none => ([.ill [b]], none)

/-- A byte inside a sequence. One that cannot continue it ends the sequence as ill-formed and is
read again between characters. -/
def next (q : Sequence) (b : UInt8) : List Piece × Option Sequence :=
  if q.low ≤ b ∧ b ≤ q.high then
    let value := q.value * 64 + (b.toNat - 0x80)
    if q.due = 1 then ([.char (Char.ofNat value)], none)
    else ([], some ⟨value, q.due - 1, 0x80, 0xBF, b :: q.seen⟩)
  else
    let (out, open?) := first b
    (.ill q.seen.reverse :: out, open?)

/-- The pieces of a byte string, after a sequence that may be under way. -/
def piecesFrom : Option Sequence → List UInt8 → List Piece
  | none, [] => []
  | some q, [] => [.ill q.seen.reverse]
  | none, b :: bs => let (out, open?) := first b; out ++ piecesFrom open? bs
  | some q, b :: bs => let (out, open?) := next q b; out ++ piecesFrom open? bs

def pieces (bs : List UInt8) : List Piece :=
  piecesFrom none bs

def Piece.char? : Piece → Option Char
  | .char c => some c
  | .ill _ => none

/-- The character, or U+FFFD for bytes that form none. -/
def Piece.charLossy : Piece → Char
  | .char c => c
  | .ill _ => '\uFFFD'

/-- The text of a byte string, if all of it is well formed. -/
def decode? (bs : List UInt8) : Option String :=
  ((pieces bs).mapM Piece.char?).map String.ofList

/-- The text of a byte string with U+FFFD for each ill-formed piece. -/
def decodeLossy (bs : List UInt8) : String :=
  String.ofList ((pieces bs).map Piece.charLossy)

@[simp] theorem encode_append (cs ds : List Char) : encode (cs ++ ds) = encode cs ++ encode ds := by
  simp [encode]

theorem toNat_continuation (n : Nat) : (continuation n).toNat = 0x80 + n % 64 := by
  simp only [continuation, UInt8.toNat_ofNat']
  omega

/-- A continuation byte takes a sequence one step on. -/
theorem next_continuation (q : Sequence) (n : Nat) (hl : q.low.toNat ≤ 0x80 + n % 64)
    (hh : 0x80 + n % 64 ≤ q.high.toNat) :
    next q (continuation n) =
      if q.due = 1 then ([.char (Char.ofNat (q.value * 64 + n % 64))], none)
      else ([], some ⟨q.value * 64 + n % 64, q.due - 1, 0x80, 0xBF, continuation n :: q.seen⟩) := by
  have h : q.low ≤ continuation n ∧ continuation n ≤ q.high := by
    simp only [UInt8.le_iff_toNat_le, toNat_continuation]
    exact ⟨hl, hh⟩
  simp [next, h, toNat_continuation]

end ExtensionCatalogue.Utf8
