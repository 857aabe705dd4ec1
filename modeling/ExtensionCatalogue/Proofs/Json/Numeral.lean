import ExtensionCatalogue.Json.Writer
import ExtensionCatalogue.Proofs.Number.Nearest
import Mathlib.Data.List.Induction
import Mathlib.Data.List.TakeDrop

/-!
# Numbers are written as numerals

Whatever number is written, its text is a numeral, or `null` for a number that JSON cannot hold.
`Numeral.chars` is the text of a numeral that has the form of one, and reading inverts it. What is
left is to see that form in the digits of an integer and in both ways of writing a decimal. The
point in doubt is the leading zero: a decimal has one only if it is zero. The numeral of a finite
number has its sign and is nearer to no other number.
-/

namespace ExtensionCatalogue.Json

/-- Digits, at least one. -/
def AreDigits (ds : List Char) : Prop := ds ≠ [] ∧ ∀ c ∈ ds, c.isDigit = true

/-- Digits without a leading zero, or a zero alone. -/
def IsWhole (ds : List Char) : Prop :=
  AreDigits ds ∧ (ds = ['0'] ∨ ds.head? ≠ some '0')

theorem areDigits_zero : AreDigits ['0'] :=
  ⟨List.cons_ne_nil '0' [], List.all_eq_true.1 rfl⟩

theorem AreDigits.append {ds es : List Char} (hd : AreDigits ds) (he : ∀ c ∈ es, c.isDigit = true) :
    AreDigits (ds ++ es) := by
  refine ⟨fun h => hd.1 (List.append_eq_nil_iff.1 h).1, fun c hc => ?_⟩
  rcases List.mem_append.1 hc with hc | hc
  · exact hd.2 c hc
  · exact he c hc

theorem AreDigits.head?_append {ds : List Char} (hd : AreDigits ds) (es : List Char) :
    (ds ++ es).head? = ds.head? := by
  cases ds with
  | nil => exact absurd rfl hd.1
  | cons c cs => rfl

/-- Digits end where no digit follows. -/
theorem spanDigits_append {ds rest : List Char} (hd : ∀ c ∈ ds, c.isDigit = true)
    (hrest : ∀ c ∈ rest.head?, c.isDigit = false) : spanDigits (ds ++ rest) = (ds, rest) := by
  have hnone : rest.takeWhile Char.isDigit = [] ∧ rest.dropWhile Char.isDigit = rest := by
    cases rest with
    | nil => exact ⟨rfl, rfl⟩
    | cons c cs =>
      have hc : ¬ c.isDigit = true := by rw [hrest c rfl]; decide
      exact ⟨List.takeWhile_cons_of_neg hc, List.dropWhile_cons_of_neg hc⟩
  rw [spanDigits, List.span_eq_takeWhile_dropWhile, List.takeWhile_append_of_pos hd,
    List.dropWhile_append_of_pos hd, hnone.1, hnone.2, List.append_nil]

namespace Numeral

/-! ## The text of a numeral -/

def fractionChars : Option (List Char) → List Char
  | none => []
  | some ds => '.' :: ds

/-- An exponent always has a sign. -/
def exponentChars : Option (Bool × List Char) → List Char
  | none => []
  | some (negative, ds) => 'e' :: (if negative then '-' else '+') :: ds

def chars (m : Numeral) : List Char :=
  (if m.negative then ['-'] else []) ++
    (m.whole ++ (fractionChars m.fraction ++ exponentChars m.exponent))

/-- The power of ten that an exponent is. -/
def power : Option (Bool × List Char) → Int
  | none => 0
  | some (true, ds) => -digitsValue ds
  | some (false, ds) => digitsValue ds

/-- The fraction that a numeral names, without its sign. -/
def size (m : Numeral) : ℚ :=
  digitsValue (m.whole ++ m.fraction.getD []) *
    10 ^ (power m.exponent - (m.fraction.getD []).length)

/-- A numeral that has the form of one. -/
structure WellFormed (m : Numeral) : Prop where
  whole : IsWhole m.whole
  fraction : ∀ ds ∈ m.fraction, AreDigits ds
  exponent : ∀ e ∈ m.exponent, AreDigits e.2

theorem exponent?_exponentChars {e : Option (Bool × List Char)} (h : ∀ p ∈ e, AreDigits p.2) :
    exponent? (exponentChars e) = some e := by
  match e with
  | none => rfl
  | some (negative, ds) =>
    obtain ⟨hne, hdigits⟩ := h _ rfl
    have hall : ds.all Char.isDigit = true := List.all_eq_true.2 hdigits
    cases negative <;> simp [exponent?, exponentChars, hne, hall]

theorem tail?_chars {negative : Bool} {whole : List Char} {f : Option (List Char)}
    {e : Option (Bool × List Char)} (hf : ∀ ds ∈ f, AreDigits ds) (he : ∀ p ∈ e, AreDigits p.2) :
    tail? negative whole (fractionChars f ++ exponentChars e) = some ⟨negative, whole, f, e⟩ := by
  cases f with
  | none =>
    have hexponent : tail? negative whole (exponentChars e) =
        (exponent? (exponentChars e)).map (⟨negative, whole, none, ·⟩) := by
      match e with
      | none => rfl
      | some (_, _) => rfl
    rw [fractionChars, List.nil_append, hexponent, exponent?_exponentChars he, Option.map_some]
  | some ds =>
    obtain ⟨hne, hdigits⟩ := hf ds rfl
    have hend : ∀ c ∈ (exponentChars e).head?, c.isDigit = false := by
      match e with
      | none => intro c hc; cases hc
      | some (_, _) => rintro c ⟨⟩; rfl
    have hspan : spanDigits (ds ++ exponentChars e) = (ds, exponentChars e) :=
      spanDigits_append hdigits hend
    rw [fractionChars, List.cons_append, tail?, hspan]
    simp [hne, exponent?_exponentChars he]

theorem fractionChars_exponentChars_head (f : Option (List Char)) (e : Option (Bool × List Char)) :
    ∀ c ∈ (fractionChars f ++ exponentChars e).head?, c.isDigit = false := by
  match f, e with
  | none, none => intro c hc; cases hc
  | none, some (_, _) => rintro c ⟨⟩; rfl
  | some _, _ => rintro c ⟨⟩; rfl

theorem unsigned?_chars {m : Numeral} (h : m.WellFormed) :
    unsigned? m.negative (m.whole ++ (fractionChars m.fraction ++ exponentChars m.exponent)) =
      some m := by
  obtain ⟨⟨⟨hne, hdigits⟩, hzero⟩, hfraction, hexponent⟩ := h
  rcases hzero with hzero | hzero
  · rw [hzero]
    show tail? m.negative ['0'] (fractionChars m.fraction ++ exponentChars m.exponent) = some m
    rw [tail?_chars hfraction hexponent, ← hzero]
  · have hspan := spanDigits_append hdigits
      (fractionChars_exponentChars_head m.fraction m.exponent)
    unfold unsigned?
    split
    case h_1 cs heq =>
      -- the first of the digits would be the zero
      cases hw : m.whole with
      | nil => exact absurd hw hne
      | cons c ds =>
        rw [hw, List.cons_append] at heq
        exact absurd (by rw [hw, (List.cons.inj heq).1]; rfl) hzero
    case h_2 =>
      rw [hspan]
      simp [hne, tail?_chars hfraction hexponent]

/-- **A numeral is read back from its text.** -/
theorem ofChars?_chars {m : Numeral} (h : m.WellFormed) : ofChars? m.chars = some m := by
  have hunsigned := unsigned?_chars h
  obtain ⟨⟨⟨hne, hdigits⟩, -⟩, -, -⟩ := h
  unfold chars
  cases hsign : m.negative with
  | true =>
    rw [hsign] at hunsigned
    exact hunsigned
  | false =>
    rw [hsign] at hunsigned
    cases hw : m.whole with
    | nil => exact absurd hw hne
    | cons c ds =>
      have hc : c ≠ '-' := by
        rintro rfl
        exact absurd (hdigits '-' (hw ▸ List.mem_cons_self)) (by decide)
      rw [hw] at hunsigned
      show ofChars? (c :: _) = some m
      rw [ofChars?.eq_2 _ (fun cs h => hc (List.cons.inj h).1)]
      exact hunsigned

def isNumeralChar (c : Char) : Bool := c.isDigit || c == '-' || c == '+' || c == '.' || c == 'e'

theorem isNumeralChar_of_isDigit {c : Char} (h : c.isDigit = true) : isNumeralChar c = true := by
  simp [isNumeralChar, h]

/-- The characters of a numeral's text. -/
theorem isNumeralChar_of_mem {m : Numeral} (h : m.WellFormed) {c : Char} (hc : c ∈ m.chars) :
    isNumeralChar c = true := by
  have hfraction : ∀ c ∈ fractionChars m.fraction, isNumeralChar c = true := by
    intro c hc
    match hf : m.fraction with
    | none => rw [hf] at hc; cases hc
    | some ds =>
      rw [hf] at hc
      rcases List.mem_cons.1 hc with rfl | hc
      · decide
      · exact isNumeralChar_of_isDigit ((h.fraction ds hf).2 c hc)
  have hexponent : ∀ c ∈ exponentChars m.exponent, isNumeralChar c = true := by
    intro c hc
    match he : m.exponent with
    | none => rw [he] at hc; cases hc
    | some (negative, ds) =>
      rw [he] at hc
      rcases List.mem_cons.1 hc with rfl | hc
      · decide
      rcases List.mem_cons.1 hc with rfl | hc
      · cases negative <;> decide
      · exact isNumeralChar_of_isDigit ((h.exponent _ he).2 c hc)
  rcases List.mem_append.1 hc with hc | hc
  · split at hc
    · rw [List.mem_singleton.1 hc]
      decide
    · cases hc
  rcases List.mem_append.1 hc with hc | hc
  · exact isNumeralChar_of_isDigit (h.whole.1.2 c hc)
  rcases List.mem_append.1 hc with hc | hc
  · exact hfraction c hc
  · exact hexponent c hc

end Numeral

/-! ## Digits of natural numbers -/

theorem areDigits_digitChars (n : Nat) : AreDigits (digitChars n) :=
  ⟨Nat.toDigits_ne_nil, fun _ hc => Nat.isDigit_of_mem_toDigits (by decide) (by decide) hc⟩

theorem head?_digitChars {n : Nat} (h : n ≠ 0) : (digitChars n).head? ≠ some '0' := by
  induction n using Nat.strongRecOn with
  | ind n ih =>
    by_cases hn : n < 10
    · have all : ∀ d ∈ List.range 10, d ≠ 0 → [Nat.digitChar d].head? ≠ some '0' := by decide
      rw [digitChars, Nat.toDigits_of_lt_base hn]
      exact all n (List.mem_range.2 hn) h
    · have hlast : digitChars n = digitChars (n / 10) ++ [Nat.digitChar (n % 10)] :=
        Nat.toDigits_of_base_le (by decide) (by omega)
      rw [hlast, (areDigits_digitChars (n / 10)).head?_append]
      exact ih (n / 10) (by omega) (by omega)

theorem isWhole_digitChars (n : Nat) : IsWhole (digitChars n) := by
  refine ⟨areDigits_digitChars n, ?_⟩
  by_cases h : n = 0
  · exact .inl (by rw [h]; decide)
  · exact .inr (head?_digitChars h)

theorem digitsValue_digitChars (n : Nat) : digitsValue (digitChars n) = n := by
  have hfold : ∀ (ds : List Char) (a : Nat),
      ds.foldl (fun n c => n * 10 + digitValue c) a = Nat.ofDigitChars 10 ds a := by
    intro ds a
    rw [Nat.ofDigitChars_eq_foldl]
    simp only [digitValue, Nat.mul_comm]
  rw [digitsValue, hfold]
  exact Nat.ofDigitChars_ten_toDigits

theorem digitsValue_append (ds es : List Char) :
    digitsValue (ds ++ es) = digitsValue ds * 10 ^ es.length + digitsValue es := by
  induction es using List.reverseRecOn with
  | nil => simp [digitsValue]
  | append_singleton es c ih =>
    have hlast : ∀ cs : List Char, digitsValue (cs ++ [c]) = digitsValue cs * 10 + digitValue c :=
      fun cs => List.foldl_append
    rw [← List.append_assoc, hlast, hlast, ih, List.length_append, List.length_singleton, pow_succ]
    ring

theorem digitsValue_zeros (n : Nat) : digitsValue (List.replicate n '0') = 0 := by
  induction n with
  | zero => rfl
  | succ n ih =>
    rw [List.replicate_succ', digitsValue_append, ih, Nat.zero_mul, Nat.zero_add]
    rfl

theorem digitsValue_append_zeros (ds : List Char) (n : Nat) :
    digitsValue (ds ++ List.replicate n '0') = digitsValue ds * 10 ^ n := by
  rw [digitsValue_append, digitsValue_zeros, List.length_replicate, Nat.add_zero]

theorem digitsValue_zeros_append (n : Nat) (ds : List Char) :
    digitsValue (List.replicate n '0' ++ ds) = digitsValue ds := by
  rw [digitsValue_append, digitsValue_zeros, Nat.zero_mul, Nat.zero_add]

/-! ## Texts of decimals -/

/-- A decimal in place: digits, a point and digits. -/
theorem positional_wire {d : Decimal} (h : d = ⟨0, 0⟩ ∨ d.digits ≠ 0) :
    ∃ whole fraction, IsWhole whole ∧ AreDigits fraction ∧
      d.positional .wire = whole ++ '.' :: fraction ∧
      digitsValue (whole ++ fraction) * 10 ^ (-fraction.length : Int) = d.size := by
  have hdigits := areDigits_digitChars d.digits
  have hzeros : ∀ n, ∀ c ∈ List.replicate n '0', c.isDigit = true := by
    intro n c hc
    rw [List.eq_of_mem_replicate hc]
    rfl
  unfold Decimal.positional Decimal.size
  split
  case h_1 e he =>
    refine ⟨digitChars d.digits ++ List.replicate e '0', ['0'], ⟨hdigits.append (hzeros e), ?_⟩,
      areDigits_zero, rfl, ?_⟩
    · rcases h with rfl | h
      · cases he
        exact .inl (by decide)
      · rw [hdigits.head?_append]
        exact .inr (head?_digitChars h)
    · have hvalue : digitsValue (digitChars d.digits ++ List.replicate e '0' ++ ['0']) =
          d.digits * 10 ^ e * 10 := by
        rw [List.append_assoc, ← List.replicate_succ', digitsValue_append_zeros,
          digitsValue_digitChars, pow_succ, mul_assoc]
      rw [hvalue, he]
      simp
  case h_2 e he =>
    have hne : d.digits ≠ 0 := by
      rcases h with rfl | h
      · cases he
      · exact h
    dsimp only
    split
    case isTrue hplaces =>
      have hpos : (digitChars d.digits).length - (e + 1) ≠ 0 := by omega
      refine ⟨_, _, ⟨⟨?_, fun c hc => hdigits.2 c (List.mem_of_mem_take hc)⟩, .inr ?_⟩,
        ⟨?_, fun c hc => hdigits.2 c (List.mem_of_mem_drop hc)⟩, rfl, ?_⟩
      · rw [ne_eq, List.take_eq_nil_iff]
        exact fun hnil => hnil.elim hpos hdigits.1
      · rw [List.head?_take, if_neg hpos]
        exact head?_digitChars hne
      · rw [ne_eq, List.drop_eq_nil_iff]
        omega
      · have hlength : (digitChars d.digits).length -
            ((digitChars d.digits).length - (e + 1)) = e + 1 := by omega
        rw [List.take_append_drop, digitsValue_digitChars, List.length_drop, hlength, he]
        rfl
    case isFalse hplaces =>
      refine ⟨['0'], _, ⟨areDigits_zero, .inl rfl⟩, ⟨?_, fun c hc => ?_⟩, rfl, ?_⟩
      · exact fun hnil => hdigits.1 (List.append_eq_nil_iff.1 hnil).2
      · rcases List.mem_append.1 hc with hc | hc
        · exact hzeros _ c hc
        · exact hdigits.2 c hc
      · have hvalue : ∀ n, digitsValue (['0'] ++ (List.replicate n '0' ++ digitChars d.digits)) =
            d.digits := by
          intro n
          show digitsValue (List.replicate (n + 1) '0' ++ digitChars d.digits) = d.digits
          rw [digitsValue_zeros_append, digitsValue_digitChars]
        have hlength : (List.replicate (e + 1 - (digitChars d.digits).length) '0' ++
            digitChars d.digits).length = e + 1 := by
          rw [List.length_append, List.length_replicate]
          omega
        rw [hvalue, hlength, he]
        rfl

/-- A single digit before the point may be a zero. -/
theorem isWhole_singleton {c : Char} (h : c.isDigit = true) : IsWhole [c] := by
  refine ⟨⟨List.cons_ne_nil c [], fun d hd => ?_⟩, ?_⟩
  · rw [List.mem_singleton.1 hd]
    exact h
  · by_cases hc : c = '0'
    · exact .inl (congrArg (fun c => [c]) hc)
    · exact .inr fun heq => hc (Option.some.inj heq)

theorem power_natAbs (e : Int) :
    Numeral.power (some (decide (e < 0), digitChars e.natAbs)) = e := by
  by_cases he : e < 0
  · simp only [he, decide_true, Numeral.power, digitsValue_digitChars]
    omega
  · simp only [he, decide_false, Numeral.power, digitsValue_digitChars]
    omega

theorem scientific_wire (d : Decimal) :
    ∃ m : Numeral, m.WellFormed ∧ m.negative = false ∧ d.scientific .wire = m.chars ∧
      m.size = d.size := by
  obtain ⟨hne, hdigits⟩ := areDigits_digitChars d.digits
  have hvalue := digitsValue_digitChars d.digits
  have hsign : ∀ e : Int, (if e < 0 then ['-'] else NumberStyle.wire.plusSign.toList) =
      [if decide (e < 0) then '-' else '+'] := by
    intro e
    by_cases he : e < 0
    · simp [he]
    · simp only [he, if_false, decide_false]
      rfl
  unfold Decimal.scientific
  simp only [hsign]
  generalize he : d.exponent + _ = e
  cases hds : digitChars d.digits with
  | nil => exact absurd hds hne
  | cons c more =>
    rw [hds] at hdigits hvalue he
    have hc : IsWhole [c] := isWhole_singleton (hdigits c List.mem_cons_self)
    have hexponent : ∀ p ∈ some (decide (e < 0), digitChars e.natAbs), AreDigits p.2 := by
      rintro p ⟨⟩
      exact areDigits_digitChars _
    have hpower : Numeral.power (some (decide (e < 0), digitChars e.natAbs)) - more.length =
        d.exponent := by
      rw [power_natAbs, ← he]
      simp
    cases more with
    | nil =>
      refine ⟨⟨false, [c], none, some (decide (e < 0), digitChars e.natAbs)⟩,
        ⟨hc, (by rintro ds ⟨⟩), hexponent⟩, rfl, rfl, ?_⟩
      rw [Numeral.size, Decimal.size, ← hvalue, ← hpower]
      rfl
    | cons c' more =>
      refine ⟨⟨false, [c], some (c' :: more), some (decide (e < 0), digitChars e.natAbs)⟩,
        ⟨hc, ?_, hexponent⟩, rfl, rfl, ?_⟩
      · rintro ds ⟨⟩
        exact ⟨List.cons_ne_nil c' more, fun x hx => hdigits x (List.mem_cons_of_mem c hx)⟩
      · rw [Numeral.size, Decimal.size, ← hvalue, ← hpower]
        rfl

theorem decimal_wire {d : Decimal} (h : d = ⟨0, 0⟩ ∨ d.digits ≠ 0) :
    ∃ m : Numeral, m.WellFormed ∧ m.negative = false ∧ d.chars .wire = m.chars ∧
      m.size = d.size := by
  unfold Decimal.chars
  dsimp only
  split
  case isTrue =>
    obtain ⟨whole, fraction, hwhole, hfraction, htext, hsize⟩ := positional_wire h
    refine ⟨⟨false, whole, some fraction, none⟩, ⟨hwhole, ?_, ?_⟩, rfl, ?_, ?_⟩
    · rintro ds ⟨⟩
      exact hfraction
    · rintro p ⟨⟩
    · rw [htext]
      simp [Numeral.chars, Numeral.fractionChars, Numeral.exponentChars]
    · rw [← hsize, Numeral.size, Numeral.power, zero_sub]
      rfl
  case isFalse => exact scientific_wire d

/-! ## Texts of numbers -/

/-- The numeral of an integer. -/
def Numeral.ofInt (i : Int) : Numeral := ⟨decide (i < 0), digitChars i.natAbs, none, none⟩

theorem Numeral.wellFormed_ofInt (i : Int) : (ofInt i).WellFormed :=
  ⟨isWhole_digitChars _, (by rintro ds ⟨⟩), (by rintro p ⟨⟩)⟩

theorem Number.chars_integer (i : Int) : (Number.integer i).chars = (Numeral.ofInt i).chars := by
  unfold Number.chars Numeral.chars Numeral.ofInt
  by_cases h : i < 0 <;> simp [h, Numeral.fractionChars, Numeral.exponentChars]

/-- A numeral that stands for a finite number if it is rounded only once: it has its sign, and no
number is nearer. -/
structure Numeral.Names (m : Numeral) (x : Binary64) : Prop where
  sign : m.negative = x.isNegative
  nearest : x.IsNearest m.size

theorem Number.chars_real {x : Binary64} (h : x.isFinite = true) :
    ∃ m : Numeral, m.WellFormed ∧ m.Names x ∧ (Number.real x).chars = m.chars := by
  obtain ⟨m, hm, hpositive, htext, hsize⟩ := decimal_wire (Binary64.shortest_plain h)
  have hnearest : x.IsNearest m.size := hsize ▸ Binary64.isNearest_shortest h
  have hlt : x.magnitude < Binary64.infiniteMagnitude := of_decide_eq_true h
  have hnan : x.isNaN = false := decide_eq_false (by omega)
  have hinf : x.isInfinite = false := beq_false_of_ne (by omega)
  have hchars : (Number.real x).chars =
      if x.isNegative then '-' :: x.shortest.chars .wire else x.shortest.chars .wire := by
    simp [Number.chars, Binary64.chars, h, hnan, hinf]
  rw [hchars, htext]
  cases hsign : x.isNegative with
  | true =>
    refine ⟨{ m with negative := true }, ⟨hm.whole, hm.fraction, hm.exponent⟩,
      ⟨hsign.symm, hnearest⟩, ?_⟩
    simp [Numeral.chars, hpositive]
  | false => exact ⟨m, hm, ⟨hpositive.trans hsign.symm, hnearest⟩, rfl⟩

/-- **A number is written as a numeral**, or as `null` if JSON cannot hold it. -/
theorem Number.chars_cases (n : Number) :
    (∃ m : Numeral, m.WellFormed ∧ n.chars = m.chars) ∨ n.chars = ['n', 'u', 'l', 'l'] := by
  match n with
  | .integer i => exact .inl ⟨_, Numeral.wellFormed_ofInt i, chars_integer i⟩
  | .real x =>
    by_cases h : x.isFinite = true
    · obtain ⟨m, hm, -, hchars⟩ := chars_real h
      exact .inl ⟨m, hm, hchars⟩
    · exact .inr (if_neg h)

/-- The value of a natural number of 64 bits. -/
theorem Numeral.value?_ofInt {n : Nat} (h : n ≤ largestWord) :
    (ofInt n).value? = some (.integer n) := by
  have hsign : decide ((n : Int) < 0) = false := decide_eq_false (by omega)
  simp [ofInt, value?, hsign, digitsValue_digitChars, h]

end ExtensionCatalogue.Json
