import ExtensionCatalogue.Text.Utf8

/-!
# UTF-8 reads back

The bytes of a text are read as its characters, whatever follows them, so both ways to decode give
the text back. The proof goes by the length of a character's sequence: its lead byte opens a
sequence whose range admits the continuation bytes that follow, because a character is no surrogate,
needs the bytes it takes and is at most U+10FFFF.
-/

namespace ExtensionCatalogue.Utf8

/-! ## Lead bytes -/

theorem lead?_two {m : Nat} (h : 2 ≤ m) (h' : m < 32) :
    lead? (UInt8.ofNat (0xC0 + m)) =
      some ⟨m, 1, 0x80, 0xBF, [UInt8.ofNat (0xC0 + m)]⟩ := by
  have all : ∀ m ∈ List.range 32, 2 ≤ m → lead? (UInt8.ofNat (0xC0 + m)) =
      some ⟨m, 1, 0x80, 0xBF, [UInt8.ofNat (0xC0 + m)]⟩ := by decide +kernel
  exact all m (List.mem_range.2 h') h

/-- The lead bytes `E0` and `ED` leave out overlong forms and surrogates. -/
theorem lead?_three {m : Nat} (h : m < 16) :
    lead? (UInt8.ofNat (0xE0 + m)) =
      some ⟨m, 2, if m = 0 then 0xA0 else 0x80, if m = 13 then 0x9F else 0xBF,
        [UInt8.ofNat (0xE0 + m)]⟩ := by
  have all : ∀ m ∈ List.range 16, lead? (UInt8.ofNat (0xE0 + m)) =
      some ⟨m, 2, if m = 0 then 0xA0 else 0x80, if m = 13 then 0x9F else 0xBF,
        [UInt8.ofNat (0xE0 + m)]⟩ := by decide +kernel
  exact all m (List.mem_range.2 h)

/-- The lead bytes `F0` and `F4` leave out overlong forms and values above U+10FFFF. -/
theorem lead?_four {m : Nat} (h : m < 5) :
    lead? (UInt8.ofNat (0xF0 + m)) =
      some ⟨m, 3, if m = 0 then 0x90 else 0x80, if m = 4 then 0x8F else 0xBF,
        [UInt8.ofNat (0xF0 + m)]⟩ := by
  have all : ∀ m ∈ List.range 5, lead? (UInt8.ofNat (0xF0 + m)) =
      some ⟨m, 3, if m = 0 then 0x90 else 0x80, if m = 4 then 0x8F else 0xBF,
        [UInt8.ofNat (0xF0 + m)]⟩ := by decide +kernel
  exact all m (List.mem_range.2 h)

/-! ## Sequences -/

theorem piecesFrom_ascii {n : Nat} (h : n < 0x80) (bs : List UInt8) :
    piecesFrom none (UInt8.ofNat n :: bs) = .char (Char.ofNat n) :: piecesFrom none bs := by
  have hn : (UInt8.ofNat n).toNat = n := by
    rw [UInt8.toNat_ofNat']
    omega
  have hlt : UInt8.ofNat n < 0x80 := by
    rw [UInt8.lt_iff_toNat_lt, hn]
    exact h
  simp [piecesFrom, first, hlt, hn]

theorem piecesFrom_lead {n : Nat} (h : 0x80 ≤ n) (h' : n < 0x100) {q : Sequence}
    (hq : lead? (UInt8.ofNat n) = some q) (bs : List UInt8) :
    piecesFrom none (UInt8.ofNat n :: bs) = piecesFrom (some q) bs := by
  have hn : (UInt8.ofNat n).toNat = n := by
    rw [UInt8.toNat_ofNat']
    omega
  have hge : ¬ UInt8.ofNat n < 0x80 := by
    rw [UInt8.lt_iff_toNat_lt, hn]
    exact Nat.not_lt.2 h
  simp [piecesFrom, first, hge, hq]

theorem piecesFrom_last {q : Sequence} {n : Nat} (hl : q.low.toNat ≤ 0x80 + n % 64)
    (hh : 0x80 + n % 64 ≤ q.high.toNat) (hdue : q.due = 1) (bs : List UInt8) :
    piecesFrom (some q) (continuation n :: bs) =
      .char (Char.ofNat (q.value * 64 + n % 64)) :: piecesFrom none bs := by
  rw [piecesFrom, next_continuation q n hl hh, if_pos hdue]
  rfl

theorem piecesFrom_more {q : Sequence} {n : Nat} (hl : q.low.toNat ≤ 0x80 + n % 64)
    (hh : 0x80 + n % 64 ≤ q.high.toNat) (hdue : q.due ≠ 1) (bs : List UInt8) :
    piecesFrom (some q) (continuation n :: bs) =
      piecesFrom (some ⟨q.value * 64 + n % 64, q.due - 1, 0x80, 0xBF, continuation n :: q.seen⟩)
        bs := by
  rw [piecesFrom, next_continuation q n hl hh, if_neg hdue]
  rfl

/-! ## Characters -/

theorem piecesFrom_two {n : Nat} (h : 0x80 ≤ n) (h' : n < 0x800) (bs : List UInt8) :
    piecesFrom none (UInt8.ofNat (0xC0 + n / 64) :: continuation n :: bs) =
      .char (Char.ofNat n) :: piecesFrom none bs := by
  have hlead := lead?_two (m := n / 64) (by omega) (by omega)
  rw [piecesFrom_lead (by omega) (by omega) hlead, piecesFrom_last ?_ ?_ rfl]
  · dsimp only
    rw [Nat.div_add_mod']
  · show 0x80 ≤ 0x80 + n % 64
    omega
  · show 0x80 + n % 64 ≤ 0xBF
    omega

theorem piecesFrom_three {n : Nat} (h : 0x800 ≤ n) (h' : n < 0x10000)
    (hscalar : n < 0xD800 ∨ 0xDFFF < n) (bs : List UInt8) :
    piecesFrom none (UInt8.ofNat (0xE0 + n / 4096) :: continuation (n / 64) :: continuation n ::
      bs) = .char (Char.ofNat n) :: piecesFrom none bs := by
  have hlead := lead?_three (m := n / 4096) (by omega)
  have hvalue : n / 4096 * 64 + n / 64 % 64 = n / 64 := by omega
  rw [piecesFrom_lead (by omega) (by omega) hlead, piecesFrom_more ?_ ?_ (by simp),
    piecesFrom_last ?_ ?_ rfl]
  · dsimp only
    rw [hvalue, Nat.div_add_mod']
  · show 0x80 ≤ 0x80 + n % 64
    omega
  · show 0x80 + n % 64 ≤ 0xBF
    omega
  · -- an overlong form would start with `E0` and a byte below `A0`
    dsimp only
    split
    · show 0xA0 ≤ 0x80 + n / 64 % 64
      omega
    · show 0x80 ≤ 0x80 + n / 64 % 64
      omega
  · -- a surrogate would start with `ED` and a byte above `9F`
    dsimp only
    split
    · show 0x80 + n / 64 % 64 ≤ 0x9F
      omega
    · show 0x80 + n / 64 % 64 ≤ 0xBF
      omega

theorem piecesFrom_four {n : Nat} (h : 0x10000 ≤ n) (h' : n < 0x110000) (bs : List UInt8) :
    piecesFrom none (UInt8.ofNat (0xF0 + n / 262144) :: continuation (n / 4096) ::
      continuation (n / 64) :: continuation n :: bs) =
      .char (Char.ofNat n) :: piecesFrom none bs := by
  have hlead := lead?_four (m := n / 262144) (by omega)
  have hfirst : n / 262144 * 64 + n / 4096 % 64 = n / 4096 := by omega
  have hsecond : n / 4096 * 64 + n / 64 % 64 = n / 64 := by omega
  rw [piecesFrom_lead (by omega) (by omega) hlead, piecesFrom_more ?_ ?_ (by simp),
    piecesFrom_more ?_ ?_ (by simp), piecesFrom_last ?_ ?_ rfl]
  · dsimp only
    rw [hfirst, hsecond, Nat.div_add_mod']
  · show 0x80 ≤ 0x80 + n % 64
    omega
  · show 0x80 + n % 64 ≤ 0xBF
    omega
  · show 0x80 ≤ 0x80 + n / 64 % 64
    omega
  · show 0x80 + n / 64 % 64 ≤ 0xBF
    omega
  · dsimp only
    split
    · show 0x90 ≤ 0x80 + n / 4096 % 64
      omega
    · show 0x80 ≤ 0x80 + n / 4096 % 64
      omega
  · dsimp only
    split
    · show 0x80 + n / 4096 % 64 ≤ 0x8F
      omega
    · show 0x80 + n / 4096 % 64 ≤ 0xBF
      omega

/-- The bytes of a character are read as the character, whatever follows. -/
theorem piecesFrom_encodeChar (c : Char) (bs : List UInt8) :
    piecesFrom none (encodeChar c ++ bs) = .char c :: piecesFrom none bs := by
  have hvalid : c.toNat < 0xD800 ∨ 0xDFFF < c.toNat ∧ c.toNat < 0x110000 := c.valid
  have hback : Char.ofNat c.toNat = c := Char.ofNat_toNat c
  unfold encodeChar
  dsimp only
  split
  · rename_i h
    exact (piecesFrom_ascii h bs).trans (by rw [hback])
  · split
    · rename_i h h'
      exact (piecesFrom_two (by omega) h' bs).trans (by rw [hback])
    · split
      · rename_i h h'
        exact (piecesFrom_three (by omega) h' (by omega) bs).trans (by rw [hback])
      · exact (piecesFrom_four (by omega) (by omega) bs).trans (by rw [hback])

/-! ## Texts -/

@[simp] theorem pieces_encode (cs : List Char) : pieces (encode cs) = cs.map .char := by
  induction cs with
  | nil => rfl
  | cons c cs ih =>
    have hcons : encode (c :: cs) = encodeChar c ++ encode cs := List.flatMap_cons
    rw [hcons, pieces, piecesFrom_encodeChar]
    exact congrArg (Piece.char c :: ·) ih

/-- **A text is read back from its bytes.** -/
@[simp] theorem decodeLossy_bytes (s : String) : decodeLossy (bytes s) = s := by
  have hchars : s.toList.map (Piece.charLossy ∘ Piece.char) = s.toList := List.map_id s.toList
  rw [decodeLossy, bytes, pieces_encode, List.map_map, hchars, String.ofList_toList]

end ExtensionCatalogue.Utf8
