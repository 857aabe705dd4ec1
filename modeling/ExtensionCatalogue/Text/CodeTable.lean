import ExtensionCatalogue.Number.Digit
import ExtensionCatalogue.Text.Blank

/-!
# Tables of code points

A property of characters as spans of code points with an entry each, searched by halving. Tables
are written as text, with blanks between the spans and every code point in hexadecimal:

- a class of code points is `5be 591-5bd`, single code points and spans of them;
- a mapping is `aa=61`; `a8=20.308,a9` gives the images of a8 and a9, the first of them two
  characters long; in `391-3a1=3b1` each code point of the span moves by the same distance, and in
  `100-12e/2=101` every second one does.
-/

namespace ExtensionCatalogue.Text

/-- The code points from `first` to `last`. -/
structure Span (α : Type) where
  first : Nat
  last : Nat
  entry : α

/-- Spans in ascending order that do not meet. -/
structure CodeTable (α : Type) where
  spans : Array (Span α)

/-- The code point that hexadecimal digits write. -/
def codePoint (cs : List Char) : Nat :=
  (Digit.number? 16 cs).getD 0

namespace Span

variable {α : Type}

/-- A span as it is written, with its entry. -/
def read (entry : α) (cs : List Char) : Span α :=
  let (first, last) := cs.span (· != '-')
  ⟨codePoint first, codePoint (if last.isEmpty then first else last.drop 1), entry⟩

/-- Characters written as code points with points between them. -/
def readImage (cs : List Char) : List Char :=
  ((cs.splitOnP (· == '.')).filter (!·.isEmpty)).map fun c => Char.ofNat (codePoint c)

/-- The spans of one stretch of a mapping. -/
def readMapping (cs : List Char) : List (Span (List Char)) :=
  let (source, image) := cs.span (· != '=')
  let (source, step) := source.span (· != '/')
  let span := read () source
  let images := ((image.drop 1).splitOnP (· == ',')).map readImage
  match images with
  | [[c]] =>
    let step := if step.isEmpty then 1 else 2
    (List.range ((span.last - span.first) / step + 1)).map fun i =>
      let n := span.first + step * i
      ⟨n, n, [Char.ofNat (c.toNat + step * i)]⟩
  | _ => images.zipIdx.map fun (image, i) => ⟨span.first + i, span.first + i, image⟩

end Span

namespace CodeTable

variable {α : Type}

/-- The table of some classes and the code points of each. -/
def ofClasses (classes : List (α × String)) : CodeTable α :=
  let spans := classes.flatMap fun (entry, text) => (words text.toList).map (Span.read entry)
  ⟨(spans.mergeSort fun s t => s.first ≤ t.first).toArray⟩

/-- The table of one class. -/
def ofClass (text : String) : CodeTable Unit :=
  ofClasses [((), text)]

def ofMapping (text : String) : CodeTable (List Char) :=
  ⟨((words text.toList).flatMap Span.readMapping).toArray⟩

/-- The span that covers `n` among those from `low` up to `high`. -/
def search (t : CodeTable α) (n low high : Nat) : Option (Span α) :=
  if low < high then
    match t.spans[(low + high) / 2]? with
    | none => none
    | some s =>
      if n < s.first then search t n low ((low + high) / 2)
      else if s.last < n then search t n ((low + high) / 2 + 1) high
      else some s
  else none
termination_by high - low

/-- The entry of a character. -/
def find? (t : CodeTable α) (c : Char) : Option α :=
  (t.search c.toNat 0 t.spans.size).map Span.entry

def contains (t : CodeTable α) (c : Char) : Bool :=
  (t.find? c).isSome

end CodeTable

example : (Span.readMapping "100-104/2=101".toList).map (fun s => (s.first, s.entry)) =
    [(0x100, ['\u0101']), (0x102, ['\u0103']), (0x104, ['\u0105'])] := by decide +kernel

example : (Span.readMapping "a8=20.308,a9".toList).map (fun s => (s.first, s.entry)) =
    [(0xA8, [' ', '\u0308']), (0xA9, ['\u00A9'])] := by decide +kernel

end ExtensionCatalogue.Text
