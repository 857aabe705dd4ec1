import ExtensionCatalogue.Proofs.Text.Utf8
import ExtensionCatalogue.Text.Form
import Mathlib.Data.List.TakeDrop

/-!
# Form encoding reads back

A pair written in form encoding is read as the pair, whatever its texts. Every byte of an encoded
text is plain: unreserved, `+` or `%`. So no separator stands in it, and a query of one pair is cut
where the pair was joined. What is left is one byte at a time, since an escape is undone as a whole
and a blank comes back from its `+` before escapes are undone.
-/

namespace ExtensionCatalogue

theorem forall_byte {P : UInt8 → Prop} (h : ∀ n ∈ List.range 256, P (UInt8.ofNat n)) (b : UInt8) :
    P b := by
  have hb : UInt8.ofNat b.toNat = b := UInt8.ofNat_toNat
  exact hb ▸ h b.toNat (List.mem_range.2 b.toNat_lt)

namespace Percent

/-- A byte that starts no escape stands for itself. -/
theorem decode_cons {b : UInt8} (h : b ≠ 0x25) (bs : List UInt8) :
    decode (b :: bs) = b :: decode bs := by
  match bs with
  | [] => rfl
  | [_] => rfl
  | _ :: _ :: _ => rw [decode, if_neg h]

theorem decode_escape {a b n : UInt8} (h : pair? a b = some n) (bs : List UInt8) :
    decode (0x25 :: a :: b :: bs) = n :: decode bs := by
  rw [decode, if_pos rfl, h]

end Percent

namespace Form

/-- The bytes that an encoded text may have. -/
def isPlain (b : UInt8) : Bool :=
  isUnreserved (Char.ofNat b.toNat) || b == 0x2B || b == 0x25

/-- A blank for each `+`. -/
def unplus (b : UInt8) : UInt8 := if b = 0x2B then 0x20 else b

/-! ## One byte -/

/-- How a byte is written: as itself, as `+` if it is a blank, or as an escape. -/
theorem encodeByte_cases (b : UInt8) :
    (Utf8.encode (encodeByte b) = [b] ∧ b ≠ 0x25 ∧ b ≠ 0x2B) ∨
    (Utf8.encode (encodeByte b) = [0x2B] ∧ b = 0x20) ∨
    ∃ high low, Utf8.encode (encodeByte b) = [0x25, high, low] ∧ high ≠ 0x2B ∧ low ≠ 0x2B ∧
      Percent.pair? high low = some b := by
  have all : ∀ b : UInt8,
      (Utf8.encode (encodeByte b) = [b] ∧ b ≠ 0x25 ∧ b ≠ 0x2B) ∨
      (Utf8.encode (encodeByte b) = [0x2B] ∧ b = 0x20) ∨
      let digit (n : Nat) := UInt8.ofNat (Digit.upper n).toNat
      Utf8.encode (encodeByte b) = [0x25, digit (b.toNat / 16), digit (b.toNat % 16)] ∧
        digit (b.toNat / 16) ≠ 0x2B ∧ digit (b.toNat % 16) ≠ 0x2B ∧
        Percent.pair? (digit (b.toNat / 16)) (digit (b.toNat % 16)) = some b :=
    forall_byte (by decide +kernel)
  rcases all b with h | h | h
  · exact .inl h
  · exact .inr (.inl h)
  · exact .inr (.inr ⟨_, _, h⟩)

/-- A byte is read back from how it is written, whatever follows. -/
theorem decode_encodeByte (b : UInt8) (bs : List UInt8) :
    Percent.decode ((Utf8.encode (encodeByte b) ++ bs).map unplus) =
      b :: Percent.decode (bs.map unplus) := by
  rcases encodeByte_cases b with ⟨h, hpercent, hplus⟩ | ⟨h, rfl⟩ | ⟨high, low, h, hhigh, hlow, hb⟩
  · have hb : unplus b = b := if_neg hplus
    rw [h, List.singleton_append, List.map_cons, hb, Percent.decode_cons hpercent]
  · rw [h, List.singleton_append, List.map_cons]
    exact Percent.decode_cons (by decide) _
  · have hhigh : unplus high = high := if_neg hhigh
    have hlow : unplus low = low := if_neg hlow
    rw [h]
    simp only [List.cons_append, List.nil_append, List.map_cons, hhigh, hlow]
    exact Percent.decode_escape hb _

theorem isPlain_encodeByte (b : UInt8) : ∀ d ∈ Utf8.encode (encodeByte b), isPlain d = true := by
  have hall : ∀ b : UInt8, (Utf8.encode (encodeByte b)).all isPlain = true :=
    forall_byte (by decide +kernel)
  exact List.all_eq_true.1 (hall b)

/-- No plain byte separates pairs, or a key from its value. -/
theorem ne_of_isPlain {b : UInt8} (h : isPlain b = true) : b ≠ 0x26 ∧ b ≠ 0x3D := by
  revert h
  exact forall_byte (P := fun b => isPlain b = true → b ≠ 0x26 ∧ b ≠ 0x3D) (by decide +kernel) b

/-! ## Texts -/

theorem encode_flatMap (bs : List UInt8) :
    Utf8.encode (bs.flatMap encodeByte) = bs.flatMap fun b => Utf8.encode (encodeByte b) :=
  List.flatMap_assoc

theorem isPlain_encode (s : String) : ∀ d ∈ Utf8.encode (encode s), isPlain d = true := by
  intro d hd
  rw [encode, encode_flatMap] at hd
  obtain ⟨b, -, hb⟩ := List.mem_flatMap.1 hd
  exact isPlain_encodeByte b d hb

/-- **An encoded text is read back.** -/
theorem decode_encode (s : String) : decode (Utf8.encode (encode s)) = s := by
  have hbytes : ∀ bs : List UInt8,
      Percent.decode ((bs.flatMap fun b => Utf8.encode (encodeByte b)).map unplus) = bs := by
    intro bs
    induction bs with
    | nil => rfl
    | cons b bs ih => rw [List.flatMap_cons, decode_encodeByte, ih]
  show Utf8.decodeLossy (Percent.decode ((Utf8.encode (encode s)).map unplus)) = s
  rw [encode, encode_flatMap, hbytes, Utf8.decodeLossy_bytes]

theorem encode_encodePair (key value : String) :
    Utf8.encode (encodePair key value) =
      Utf8.encode (encode key) ++ 0x3D :: Utf8.encode (encode value) := by
  rw [encodePair, Utf8.encode_append]
  rfl

/-- **A query of one pair is read back.** -/
theorem pairs_encodePair (key value : String) :
    pairs (Utf8.encode (encodePair key value)) = [(key, value)] := by
  have hkey : ∀ d ∈ Utf8.encode (encode key), d ≠ 0x26 ∧ d ≠ 0x3D := fun d hd =>
    ne_of_isPlain (isPlain_encode key d hd)
  have hvalue : ∀ d ∈ Utf8.encode (encode value), d ≠ 0x26 := fun d hd =>
    (ne_of_isPlain (isPlain_encode value d hd)).1
  have hand : 0x26 ∉ Utf8.encode (encodePair key value) := by
    rw [encode_encodePair]
    simp only [List.mem_append, List.mem_cons, not_or]
    exact ⟨fun h => (hkey _ h).1 rfl, by decide, fun h => hvalue _ h rfl⟩
  have hspan : (Utf8.encode (encodePair key value)).span (· ≠ 0x3D) =
      (Utf8.encode (encode key), 0x3D :: Utf8.encode (encode value)) := by
    have hstop : ∀ d ∈ Utf8.encode (encode key), decide (d ≠ 0x3D) = true := fun d hd =>
      decide_eq_true (hkey d hd).2
    rw [encode_encodePair, List.span_eq_takeWhile_dropWhile,
      List.takeWhile_append_of_pos hstop, List.dropWhile_append_of_pos hstop]
    simp
  have hsplit : pairs (Utf8.encode (encodePair key value)) =
      [(decode (Utf8.encode (encode key)), decode (Utf8.encode (encode value)))] := by
    unfold pairs
    rw [List.splitOn_eq_singleton hand, List.filter_cons_of_pos, List.filter_nil,
      List.map_singleton, hspan]
    · rfl
    · simp [encode_encodePair]
  rw [hsplit, decode_encode, decode_encode]

end Form

end ExtensionCatalogue
