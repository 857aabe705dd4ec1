import ExtensionCatalogue.Text.CaseTable

/-!
# Lower case

The full lower-case form of a text. Every character maps by itself, `İ` to two characters, except
the capital sigma: it becomes the final form `ς` where it ends a word, that is, with a cased
letter before it and none after it, case-ignorable characters skipped on both sides.
-/

namespace ExtensionCatalogue.Text

def capitalSigma : Char := 'Σ'

/-- The simple lower-case form of a code point. -/
def lowercaseCode (n : Nat) : Nat :=
  if n < 0x80 then if 0x41 ≤ n ∧ n ≤ 0x5A then n + 0x20 else n
  else
    match lowercaseRanges.find? fun (first, last, stride, _) =>
        first ≤ n && n ≤ last && (n - first) % stride == 0 with
    | some (first, _, _, lower) => lower + (n - first)
    | none => n

/-- The lower-case form of a character that stands alone. -/
def lowercaseChar (c : Char) : List Char :=
  if c.toNat = 0x130 then ['i', '\u0307'] else [Char.ofNat (lowercaseCode c.toNat)]

def isCased (c : Char) : Bool := inRanges casedRanges c.toNat

def isCaseIgnorable (c : Char) : Bool := inRanges caseIgnorableRanges c.toNat

/-- Whether the first character that is not case-ignorable is cased. -/
def meetsCased (cs : List Char) : Bool :=
  ((cs.dropWhile isCaseIgnorable).head?.map isCased).getD false

/-- The lower-case form of `cs`, where `before` precedes it, nearest character first. -/
def lowercaseAfter (before : List Char) : List Char → List Char
  | [] => []
  | c :: cs =>
    let lower :=
      if c = capitalSigma then [if meetsCased before && !meetsCased cs then 'ς' else 'σ']
      else lowercaseChar c
    lower ++ lowercaseAfter (c :: before) cs

def lowercaseChars (cs : List Char) : List Char :=
  lowercaseAfter [] cs

/-- The lower-case form of a text. -/
def lowercase (s : String) : String :=
  String.ofList (lowercaseChars s.toList)

theorem toList_lowercase (s : String) : (lowercase s).toList = lowercaseChars s.toList := by
  simp [lowercase]

end ExtensionCatalogue.Text
