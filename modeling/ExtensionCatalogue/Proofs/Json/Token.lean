import ExtensionCatalogue.Proofs.Json.Node
import ExtensionCatalogue.Proofs.Json.Numeral
import ExtensionCatalogue.Proofs.Text.Utf8

/-!
# The text of a value is read as its tree

Every value has a text that is JSON, and the tree of the text keeps what was written. `Value.node`
is that tree. A number or another word is complete only when something ends it, so a lexer is
followed up to where it could start a new token: `Lexer.reads?` gives the tokens up to there, and
a character that ends words goes on from them.
-/

namespace ExtensionCatalogue.Json

/-! ## Trees of values -/

/-- How a character stands in a literal: a control character without a short escape is known by
its code. -/
def LiteralUnit.ofChar (c : Char) : LiteralUnit :=
  if c.toNat < 0x20 ∧ c ∉ ['\x08', '\x0c', '\n', '\r', '\t'] then .escape c.toNat else .char c

def Literal.ofText (s : String) : Literal := s.toList.map LiteralUnit.ofChar

/-- A number that JSON cannot hold is lost. -/
def Number.node (n : Number) : Node :=
  match Numeral.ofChars? n.chars with
  | some m => .number m
  | none => .null

mutual

/-- The tree of a value's text. -/
def Value.node : Value → Node
  | .null => .null
  | .boolean b => .boolean b
  | .number n => n.node
  | .text s => .text (.ofText s)
  | .array vs => .array (itemNodes vs)
  | .object ms => .object (memberNodes ms)

def itemNodes : List Value → List Node
  | [] => []
  | v :: vs => v.node :: itemNodes vs

def memberNodes : List (String × Value) → List (Literal × Node)
  | [] => []
  | (key, v) :: ms => (.ofText key, v.node) :: memberNodes ms

end

theorem itemNodes_eq (vs : List Value) : itemNodes vs = vs.map Value.node := by
  induction vs with
  | nil => rfl
  | cons v vs ih => rw [itemNodes, ih, List.map_cons]

theorem memberNodes_eq (ms : List (String × Value)) :
    memberNodes ms = ms.map fun m => (Literal.ofText m.1, m.2.node) := by
  induction ms with
  | nil => rfl
  | cons m ms ih => rw [memberNodes, ih, List.map_cons]

/-! ## Literals -/

/-- Short escapes are undone by reading them, other escapes by joining their units. -/
theorem escapeChar_cases (c : Char) :
    (∃ d, escapeChar c = ['\\', d] ∧ d ≠ 'u' ∧ shortEscape? d = some c ∧
      LiteralUnit.ofChar c = .char c) ∨
    (c.toNat < 0x20 ∧ LiteralUnit.ofChar c = .escape c.toNat ∧ escapeChar c =
      ['\\', 'u', '0', '0', Digit.lower (c.toNat / 16), Digit.lower (c.toNat % 16)]) ∨
    (escapeChar c = [c] ∧ c ≠ '"' ∧ c ≠ '\\' ∧ 0x20 ≤ c.toNat ∧
      LiteralUnit.ofChar c = .char c) := by
  have short : ∀ d, d ∈ ['"', '\\', '\x08', '\x0c', '\n', '\r', '\t'] →
      ∃ e, escapeChar d = ['\\', e] ∧ e ≠ 'u' ∧ shortEscape? e = some d ∧
        LiteralUnit.ofChar d = .char d := by
    simp only [List.mem_cons, List.not_mem_nil, or_false]
    rintro d (rfl | rfl | rfl | rfl | rfl | rfl | rfl)
    all_goals exact ⟨_, rfl, by decide, rfl, by decide⟩
  by_cases hshort : c ∈ ['"', '\\', '\x08', '\x0c', '\n', '\r', '\t']
  · exact .inl (short c hshort)
  · simp only [List.mem_cons, List.not_mem_nil, or_false, not_or] at hshort
    obtain ⟨hquote, hslash, hb, hf, hn, hr, ht⟩ := hshort
    by_cases hcontrol : c.toNat < 0x20
    · refine .inr (.inl ⟨hcontrol, ?_, ?_⟩)
      · simp [LiteralUnit.ofChar, hcontrol, hb, hf, hn, hr, ht]
      · simp [escapeChar, hcontrol, hquote, hslash, hb, hf, hn, hr, ht]
    · refine .inr (.inr ⟨?_, hquote, hslash, by omega, ?_⟩)
      · simp [escapeChar, hcontrol, hquote, hslash, hb, hf, hn, hr, ht]
      · simp [LiteralUnit.ofChar, hcontrol]

theorem Literal.chars?_escape {code : Nat} (h : code < 0xD800) (us : Literal) :
    chars? (.escape code :: us) = (chars? us).map (Char.ofNat code :: ·) := by
  have hhigh : ¬ (0xD800 ≤ code ∧ code < 0xDC00) := by omega
  have hlow : ¬ (0xDC00 ≤ code ∧ code < 0xE000) := by omega
  have hlone : ¬ (0xD800 ≤ code ∧ code < 0xE000) := by omega
  match us with
  | .escape low :: us => rw [chars?, if_neg hhigh, if_neg hlow]
  | [] | .char _ :: _ | .ill _ :: _ => simp [chars?, hlone]

/-- **The literal of a text stands for it.** -/
@[simp] theorem Literal.text?_ofText (s : String) : text? (.ofText s) = some s := by
  have hchars : ∀ cs : List Char, chars? (cs.map LiteralUnit.ofChar) = some cs := by
    intro cs
    induction cs with
    | nil => rfl
    | cons c cs ih =>
      rw [List.map_cons]
      rcases escapeChar_cases c with ⟨_, -, -, -, hc⟩ | ⟨hcontrol, hc, -⟩ | ⟨-, -, -, -, hc⟩
      · rw [hc, chars?, ih, Option.map_some]
      · rw [hc, chars?_escape (by omega), ih, Option.map_some, Char.ofNat_toNat]
      · rw [hc, chars?, ih, Option.map_some]
  rw [text?, ofText, hchars, Option.map_some, String.ofList_toList]

namespace Lexer

/-! ## Reading up to a word's end -/

/-- The tokens so far, the latest first, where a new one may start. -/
def settled? (l : Lexer) : Option (List Token) :=
  match l.mode with
  | .between => some l.tokens
  | .word cs => (Token.ofWord? cs.reverse).map (· :: l.tokens)
  | _ => none

theorem finish?_of_settled {l : Lexer} {ts : List Token} (h : l.settled? = some ts) :
    l.finish? = some ts.reverse := by
  obtain ⟨tokens, mode⟩ := l
  cases mode with
  | between =>
    cases h
    rfl
  | word cs =>
    obtain ⟨t, ht, rfl⟩ := Option.map_eq_some_iff.1 h
    exact Option.map_eq_some_iff.2 ⟨t, ht, rfl⟩
  | _ => cases h

theorem stepChar_of_endsWord {l : Lexer} {ts : List Token} {c : Char} (hc : endsWord c = true)
    (h : l.settled? = some ts) : l.stepChar c = some (start ts c) := by
  obtain ⟨tokens, mode⟩ := l
  cases mode with
  | between =>
    cases h
    rfl
  | word cs =>
    obtain ⟨t, ht, rfl⟩ := Option.map_eq_some_iff.1 h
    simp [stepChar, hc, ht]
  | _ => cases h

def run (l : Lexer) (cs : List Char) : Option Lexer := cs.foldlM stepChar l

/-- The tokens after some characters, if a new one may start there. -/
def reads? (l : Lexer) (cs : List Char) : Option (List Token) := (l.run cs).bind settled?

theorem run_cons {l l' : Lexer} {c : Char} (h : l.stepChar c = some l') (cs : List Char) :
    l.run (c :: cs) = l'.run cs :=
  foldlM_cons_of_eq_some h cs

theorem run_append {l l' : Lexer} {cs : List Char} (h : l.run cs = some l') (ds : List Char) :
    l.run (cs ++ ds) = l'.run ds :=
  foldlM_append_of_eq_some h ds

theorem reads?_append {l l' : Lexer} {cs : List Char} (h : l.run cs = some l')
    (ds : List Char) : l.reads? (cs ++ ds) = l'.reads? ds := by
  rw [reads?, run_append h, reads?]

theorem reads?_cons {l l' : Lexer} {c : Char} (h : l.stepChar c = some l') (cs : List Char) :
    l.reads? (c :: cs) = l'.reads? cs := by
  rw [reads?, run_cons h, reads?]

/-- What ends a word starts the next token. -/
theorem reads?_append_cons {l : Lexer} {ts : List Token} {cs : List Char} {c : Char}
    (hc : endsWord c = true) (h : l.reads? cs = some ts) (ds : List Char) :
    l.reads? (cs ++ c :: ds) = (start ts c).reads? ds := by
  obtain ⟨l', hrun, hsettled⟩ := Option.bind_eq_some_iff.1 h
  rw [reads?_append hrun, reads?, run_cons (stepChar_of_endsWord hc hsettled), reads?]

/-! ## Texts and words -/

theorem run_escapeChar (c : Char) (ts : List Token) (us : Literal) :
    run ⟨ts, .text us⟩ (escapeChar c) = some ⟨ts, .text (.ofChar c :: us)⟩ := by
  have hescape : stepChar ⟨ts, .text us⟩ '\\' = some ⟨ts, .backslash us⟩ := rfl
  rcases escapeChar_cases c with ⟨d, htext, hu, hd, hc⟩ | ⟨hcontrol, hc, htext⟩ |
    ⟨htext, hquote, hslash, hplain, hc⟩
  · rw [htext, hc, run_cons hescape]
    simp [run, stepChar, hu, hd]
  · have hcode : stepChar ⟨ts, .backslash us⟩ 'u' = some ⟨ts, .escape us 4 0⟩ := rfl
    have hzero : stepChar ⟨ts, .escape us 4 0⟩ '0' = some ⟨ts, .escape us 3 0⟩ := rfl
    have hzero' : stepChar ⟨ts, .escape us 3 0⟩ '0' = some ⟨ts, .escape us 2 0⟩ := rfl
    have hhigh : stepChar ⟨ts, .escape us 2 0⟩ (Digit.lower (c.toNat / 16)) =
        some ⟨ts, .escape us 1 (c.toNat / 16)⟩ := by
      have hdigit : Digit.value? 16 (Digit.lower (c.toNat / 16)) = some (c.toNat / 16) :=
        Digit.value?_lower (by omega) (by decide)
      simp [stepChar, hdigit]
    have hlow : stepChar ⟨ts, .escape us 1 (c.toNat / 16)⟩ (Digit.lower (c.toNat % 16)) =
        some ⟨ts, .text (.escape c.toNat :: us)⟩ := by
      have hdigit : Digit.value? 16 (Digit.lower (c.toNat % 16)) = some (c.toNat % 16) :=
        Digit.value?_lower (by omega) (by decide)
      have hsum : c.toNat / 16 * 16 + c.toNat % 16 = c.toNat := Nat.div_add_mod' c.toNat 16
      simp [stepChar, hdigit, hsum]
    rw [htext, hc, run_cons hescape, run_cons hcode, run_cons hzero, run_cons hzero',
      run_cons hhigh, run_cons hlow]
    rfl
  · have hchar : stepChar ⟨ts, .text us⟩ c = some ⟨ts, .text (.char c :: us)⟩ := by
      simp [stepChar, hquote, hslash, Nat.not_lt.2 hplain]
    rw [htext, hc, run_cons hchar]
    rfl

/-- A string literal is read as the literal of its text. -/
theorem run_quote (s : String) (ts : List Token) :
    run ⟨ts, .between⟩ (quote s) = some ⟨.text (.ofText s) :: ts, .between⟩ := by
  have hchars : ∀ (cs : List Char) (us : Literal), run ⟨ts, .text us⟩ (cs.flatMap escapeChar) =
      some ⟨ts, .text ((cs.map LiteralUnit.ofChar).reverse ++ us)⟩ := by
    intro cs
    induction cs with
    | nil => intro us; rfl
    | cons c cs ih =>
      intro us
      rw [List.flatMap_cons, run_append (run_escapeChar c ts us), ih, List.map_cons,
        List.reverse_cons, List.append_assoc, List.singleton_append]
  have hopen : stepChar ⟨ts, .between⟩ '"' = some ⟨ts, .text []⟩ := rfl
  rw [quote, run_cons hopen, run_append (hchars s.toList [])]
  simp [run, stepChar, Literal.ofText]

/-- A key is read with the colon after it. -/
theorem reads?_key (key : String) (ts : List Token) (cs : List Char) :
    reads? ⟨ts, .between⟩ (quote key ++ ':' :: cs) =
      reads? ⟨.colon :: .text (.ofText key) :: ts, .between⟩ cs := by
  have hkey : reads? ⟨ts, .between⟩ (quote key) = some (.text (.ofText key) :: ts) := by
    rw [reads?, run_quote]
    rfl
  exact reads?_append_cons (by decide) hkey cs

theorem start_of_not_endsWord {c : Char} (h : endsWord c = false) (ts : List Token) :
    start ts c = ⟨ts, .word [c]⟩ := by
  simp only [endsWord, Bool.or_eq_false_iff, beq_eq_false_iff_ne, Option.isSome_eq_false_iff,
    Option.isNone_iff_eq_none] at h
  obtain ⟨⟨hblank, hquote⟩, hpunctuation⟩ := h
  simp [start, hblank, hquote, hpunctuation]

theorem reads?_word {cs : List Char} {t : Token} (hne : cs ≠ [])
    (hcs : cs.any endsWord = false) (ht : Token.ofWord? cs = some t) (ts : List Token) :
    reads? ⟨ts, .between⟩ cs = some (t :: ts) := by
  have hrest : ∀ ds rs : List Char, ds.any endsWord = false →
      run ⟨ts, .word rs⟩ ds = some ⟨ts, .word (ds.reverse ++ rs)⟩ := by
    intro ds
    induction ds with
    | nil => intro rs _; rfl
    | cons d ds ih =>
      intro rs hds
      rw [List.any_cons, Bool.or_eq_false_iff] at hds
      have hstep : stepChar ⟨ts, .word rs⟩ d = some ⟨ts, .word (d :: rs)⟩ := by
        simp [stepChar, hds.1]
      rw [run_cons hstep, ih _ hds.2]
      simp
  cases cs with
  | nil => exact absurd rfl hne
  | cons c cs =>
    rw [List.any_cons, Bool.or_eq_false_iff] at hcs
    have hstart : stepChar ⟨ts, .between⟩ c = some ⟨ts, .word [c]⟩ :=
      congrArg some (start_of_not_endsWord hcs.1 ts)
    rw [reads?, run_cons hstart, hrest cs [c] hcs.2]
    simp [settled?, ht]

/-- The characters that end a word. -/
theorem mem_of_endsWord {c : Char} (h : endsWord c = true) :
    c ∈ [' ', '\t', '\r', '\n', '"', '[', ']', '\x7b', '\x7d', ',', ':'] := by
  simp only [endsWord, Token.isBlank, Bool.or_eq_true, beq_iff_eq] at h
  rcases h with ((((rfl | rfl) | rfl) | rfl) | rfl) | h
  any_goals decide
  unfold Token.punctuation? at h
  split at h
  any_goals decide
  cases h

end Lexer

/-! ## Numbers -/

theorem Token.ofWord?_numeral {m : Numeral} (h : m.WellFormed) :
    ofWord? m.chars = some (.number m) := by
  have hletter : ∀ c, Numeral.isNumeralChar c = false → c ∉ m.chars := by
    intro c hc hmem
    rw [Numeral.isNumeralChar_of_mem h hmem] at hc
    cases hc
  have htrue : m.chars ≠ ['t', 'r', 'u', 'e'] := fun heq =>
    hletter 't' (by decide) (heq ▸ by decide)
  have hfalse : m.chars ≠ ['f', 'a', 'l', 's', 'e'] := fun heq =>
    hletter 'f' (by decide) (heq ▸ by decide)
  have hnull : m.chars ≠ ['n', 'u', 'l', 'l'] := fun heq =>
    hletter 'n' (by decide) (heq ▸ by decide)
  rw [ofWord?, if_neg htrue, if_neg hfalse, if_neg hnull, Numeral.ofChars?_chars h, Option.map_some]

/-- A number is read as one token, which is all of its tree. -/
theorem Number.reads?_chars (n : Number) (ts : List Token) :
    Lexer.reads? ⟨ts, .between⟩ n.chars = some (n.node.tokens.reverse ++ ts) := by
  rcases n.chars_cases with ⟨m, hm, htext⟩ | htext
  · have hnode : n.node = .number m := by
      rw [node, htext, Numeral.ofChars?_chars hm]
    have hne : m.chars ≠ [] := by
      intro h
      have hread := Numeral.ofChars?_chars hm
      rw [h] at hread
      cases hread
    have hcs : m.chars.any Lexer.endsWord = false := by
      refine List.any_eq_false.2 fun c hc hend => ?_
      have hall : [' ', '\t', '\r', '\n', '"', '[', ']', '\x7b', '\x7d', ',', ':'].all
          (!Numeral.isNumeralChar ·) = true := by decide
      have hnot := List.all_eq_true.1 hall c (Lexer.mem_of_endsWord hend)
      rw [Numeral.isNumeralChar_of_mem hm hc] at hnot
      cases hnot
    rw [hnode, htext, Lexer.reads?_word hne hcs (Token.ofWord?_numeral hm)]
    unfold Node.tokens
    rfl
  · have hnode : n.node = .null := by
      rw [node, htext]
      rfl
    have hnull : Token.ofWord? ['n', 'u', 'l', 'l'] = some .null := by decide
    rw [hnode, htext, Lexer.reads?_word (by decide) (by decide) hnull]
    unfold Node.tokens
    rfl

/-! ## Values -/

namespace Lexer

mutual

/-- The text of a value is read as the tokens of its tree. -/
theorem reads?_chars : ∀ (v : Value) (ts : List Token),
    reads? ⟨ts, .between⟩ v.chars = some (v.node.tokens.reverse ++ ts)
  | .null, ts => by
    unfold Value.chars Value.node Node.tokens
    exact reads?_word (by decide) (by decide) (by decide) ts
  | .boolean b, ts => by
    unfold Value.chars Value.node Node.tokens
    cases b
    · exact reads?_word (by decide) (by decide) (by decide) ts
    · exact reads?_word (by decide) (by decide) (by decide) ts
  | .number n, ts => by
    unfold Value.chars Value.node
    exact n.reads?_chars ts
  | .text s, ts => by
    unfold Value.chars Value.node Node.tokens
    rw [reads?, run_quote]
    rfl
  | .array [], ts => by
    unfold Value.chars Value.node itemNodes Node.tokens
    rfl
  | .array (v :: vs), ts => by
    unfold Value.chars Value.node itemNodes Node.tokens
    calc reads? ⟨ts, .between⟩ ('[' :: (v.chars ++ moreItems vs))
        = reads? ⟨.openArray :: ts, .between⟩ (v.chars ++ moreItems vs) :=
          reads?_cons rfl _
      _ = some ((itemTokens (itemNodes vs)).reverse ++
            (v.node.tokens.reverse ++ .openArray :: ts)) :=
          reads?_moreItems vs _ _ _ (reads?_chars v _)
      _ = some ((.openArray :: (v.node.tokens ++ itemTokens (itemNodes vs))).reverse ++ ts) := by
          simp
  | .object [], ts => by
    unfold Value.chars Value.node memberNodes Node.tokens
    rfl
  | .object ((key, v) :: ms), ts => by
    unfold Value.chars Value.node memberNodes Node.tokens
    calc reads? ⟨ts, .between⟩ ('\x7b' :: (quote key ++ ':' :: (v.chars ++ moreMembers ms)))
        = reads? ⟨.openObject :: ts, .between⟩ (quote key ++ ':' :: (v.chars ++ moreMembers ms)) :=
          reads?_cons rfl _
      _ = reads? ⟨.colon :: .text (.ofText key) :: .openObject :: ts, .between⟩
            (v.chars ++ moreMembers ms) :=
          reads?_key key _ _
      _ = some ((memberTokens (memberNodes ms)).reverse ++
            (v.node.tokens.reverse ++ .colon :: .text (.ofText key) :: .openObject :: ts)) :=
          reads?_moreMembers ms _ _ _ (reads?_chars v _)
      _ = _ := by simp

/-- Where an item ends, the rest of its array is read. -/
theorem reads?_moreItems : ∀ (vs : List Value) (l : Lexer) (cs : List Char) (ts : List Token),
    l.reads? cs = some ts →
      l.reads? (cs ++ moreItems vs) = some ((itemTokens (itemNodes vs)).reverse ++ ts)
  | [], l, cs, ts, h => by
    unfold moreItems itemNodes itemTokens
    rw [reads?_append_cons (by decide) h]
    rfl
  | v :: vs, l, cs, ts, h => by
    unfold moreItems itemNodes itemTokens
    rw [reads?_append_cons (by decide) h]
    calc reads? ⟨.comma :: ts, .between⟩ (v.chars ++ moreItems vs)
        = some ((itemTokens (itemNodes vs)).reverse ++ (v.node.tokens.reverse ++ .comma :: ts)) :=
          reads?_moreItems vs _ _ _ (reads?_chars v _)
      _ = some ((.comma :: (v.node.tokens ++ itemTokens (itemNodes vs))).reverse ++ ts) := by simp

/-- Where a member ends, the rest of its object is read. -/
theorem reads?_moreMembers : ∀ (ms : List (String × Value)) (l : Lexer) (cs : List Char)
    (ts : List Token), l.reads? cs = some ts →
      l.reads? (cs ++ moreMembers ms) = some ((memberTokens (memberNodes ms)).reverse ++ ts)
  | [], l, cs, ts, h => by
    unfold moreMembers memberNodes memberTokens
    rw [reads?_append_cons (by decide) h]
    rfl
  | (key, v) :: ms, l, cs, ts, h => by
    unfold moreMembers memberNodes memberTokens
    rw [reads?_append_cons (by decide) h]
    calc reads? ⟨.comma :: ts, .between⟩ (quote key ++ ':' :: (v.chars ++ moreMembers ms))
        = reads? ⟨.colon :: .text (.ofText key) :: .comma :: ts, .between⟩
            (v.chars ++ moreMembers ms) :=
          reads?_key key _ _
      _ = some ((memberTokens (memberNodes ms)).reverse ++
            (v.node.tokens.reverse ++ .colon :: .text (.ofText key) :: .comma :: ts)) :=
          reads?_moreMembers ms _ _ _ (reads?_chars v _)
      _ = _ := by simp

end

end Lexer

theorem tokens?_bytes {s : String} {ts : List Token}
    (h : Lexer.reads? ⟨[], .between⟩ s.toList = some ts) :
    tokens? (Utf8.bytes s) = some ts.reverse := by
  have hrun : (Utf8.pieces (Utf8.bytes s)).foldlM Lexer.step ⟨[], .between⟩ =
      Lexer.run ⟨[], .between⟩ s.toList := by
    rw [Utf8.bytes, Utf8.pieces_encode, List.foldlM_map]
    rfl
  obtain ⟨l, hl, hsettled⟩ := Option.bind_eq_some_iff.1 h
  rw [tokens?, hrun, hl]
  exact Lexer.finish?_of_settled hsettled

/-- **The text of a value is JSON**, and its tree is that of the value. -/
theorem Node.read?_write (v : Value) : Node.read? (Utf8.bytes v.write) = some v.node := by
  have htokens : tokens? (Utf8.bytes v.write) = some v.node.tokens := by
    have hreads := Lexer.reads?_chars v []
    rw [List.append_nil] at hreads
    have h := tokens?_bytes (s := v.write) (by rw [Value.write, String.toList_ofList]; exact hreads)
    rwa [List.reverse_reverse] at h
  rw [read?, htokens]
  exact v.node.ofTokens?_tokens

/-- What is read of a value's text is what its tree stands for. -/
theorem Value.read?_write (v : Value) :
    Value.read? (Utf8.bytes v.write) = Value.ofNode? depthLimit v.node := by
  rw [read?, Node.read?_write]
  rfl

end ExtensionCatalogue.Json
