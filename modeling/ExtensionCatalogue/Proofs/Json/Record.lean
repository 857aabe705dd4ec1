import ExtensionCatalogue.Proofs.Json.Value

/-!
# What a record holds

Readers of values and of fields, each tied to the values it accepts. An object holds under a key
the last of its members with that key (`lookup?_eq_iff`), an array of fields holds each at the
place of its key (`lookup_zip`).
-/

namespace ExtensionCatalogue.Json

namespace Value

variable {v : Value}

def IsText (v : Value) (s : String) : Prop := v = .text s

theorem text?_eq_some_iff {s : String} : text? v = some s ↔ v.IsText s := by
  cases v <;> simp [text?, IsText]

def IsBoolean (v : Value) (b : Bool) : Prop := v = .boolean b

theorem boolean?_eq_some_iff {b : Bool} : boolean? v = some b ↔ v.IsBoolean b := by
  cases v <;> simp [boolean?, IsBoolean]

/-- A text, or `null` for no text. -/
inductive IsTextOrNull : Value → Option String → Prop
  | null : IsTextOrNull .null none
  | text (s : String) : IsTextOrNull (.text s) (some s)

theorem nullable?_text?_eq_some_iff {s? : Option String} :
    nullable? text? v = some s? ↔ IsTextOrNull v s? := by
  constructor
  · intro h
    cases v with
    | null => cases h; exact .null
    | text s => cases h; exact .text s
    | boolean _ | number _ | array _ | object _ => cases h
  · rintro (_ | s) <;> rfl

/-- An array of texts. -/
def IsTexts (v : Value) (ss : List String) : Prop := v = .array (ss.map .text)

theorem list?_text?_eq_some_iff {ss : List String} :
    list? text? v = some ss ↔ v.IsTexts ss := by
  constructor
  · intro h
    cases v with
    | array items =>
      have hitems : items.mapM text? = some ss := h
      induction items generalizing ss with
      | nil => cases hitems; rfl
      | cons item items ih =>
        rw [List.mapM_cons] at hitems
        obtain ⟨s, hs, hitems⟩ := Option.bind_eq_some_iff.1 hitems
        obtain ⟨rest, hrest, hitems⟩ := Option.bind_eq_some_iff.1 hitems
        cases hitems
        cases text?_eq_some_iff.1 hs
        cases ih hrest hrest
        rfl
    | null | boolean _ | number _ | text _ | object _ => cases h
  · rintro rfl
    exact list?_text ss

/-- A number, as a double. -/
inductive IsDouble : Value → Binary64 → Prop
  | integer (i : Int) : IsDouble (.number (.integer i)) (.ofInt i)
  | real (x : Binary64) : IsDouble (.number (.real x)) x

theorem double?_eq_some_iff {x : Binary64} : double? v = some x ↔ IsDouble v x := by
  constructor
  · intro h
    cases v with
    | number n => cases n <;> cases h <;> constructor
    | null | boolean _ | text _ | array _ | object _ => cases h
  · rintro (_ | _) <;> rfl

/-- An integer from zero to `2 ^ 64 - 1`. -/
def IsWord (v : Value) (w : UInt64) : Prop := v = .number (.integer w.toNat)

theorem word?_eq_some_iff {w : UInt64} : word? v = some w ↔ v.IsWord w := by
  constructor
  · intro h
    match v with
    | .number (.integer (.ofNat n)) =>
      obtain ⟨hn, hw⟩ := Option.ite_none_right_eq_some.1 h
      cases hw
      have hlt : n < 2 ^ 64 := Nat.lt_succ_of_le hn
      rw [IsWord, UInt64.toNat_ofNat_of_lt' hlt]
      rfl
    | .number (.integer (.negSucc _)) | .number (.real _) | .null | .boolean _ | .text _
    | .array _ | .object _ => cases h
  · rintro rfl
    have hle : w.toNat ≤ largestWord := Nat.le_of_lt_succ w.toNat_lt
    show (if w.toNat ≤ largestWord then some (UInt64.ofNat w.toNat) else none) = some w
    rw [if_pos hle, UInt64.ofNat_toNat]

end Value

/-! ## Fields -/

section

variable {α : Type} {read? : Value → Option α} {is : Value → α → Prop}

theorem required?_eq_some_iff {v? : Option Value} {a : α} :
    required? read? v? = some a ↔ ∃ v, v? = some v ∧ read? v = some a :=
  Option.bind_eq_some_iff

/-- What a field that may be absent stands for, where a value that is there must be right. -/
inductive Given (default : α) (is : Value → α → Prop) : Option Value → α → Prop
  | absent : Given default is none default
  | present {v : Value} {a : α} (h : is v a) : Given default is (some v) a

theorem optional?_eq_some_iff (hread : ∀ v a, read? v = some a ↔ is v a) {default : α}
    {v? : Option Value} {a : α} :
    optional? default read? v? = some a ↔ Given default is v? a := by
  cases v? with
  | none =>
    constructor
    · intro h
      cases h
      exact .absent
    · rintro ⟨⟩
      rfl
  | some v =>
    constructor
    · exact fun h => .present ((hread v a).1 h)
    · rintro (_ | h)
      exact (hread v a).2 h

end

/-- What an object holds under a key: the last of its members with that key. -/
def Holds (members : List (String × Value)) (key : String) : Option Value → Prop
  | none => key ∉ members.map (·.1)
  | some v => ∃ front back, members = front ++ (key, v) :: back ∧ key ∉ back.map (·.1)

theorem find?_key_eq_none {members : List (String × Value)} {key : String} :
    members.find? (·.1 == key) = none ↔ key ∉ members.map (·.1) := by
  rw [List.find?_eq_none, List.mem_map]
  constructor
  · rintro h ⟨m, hm, rfl⟩
    exact h m hm (beq_self_eq_true m.1)
  · exact fun h m hm hkey => h ⟨m, hm, eq_of_beq hkey⟩

theorem lookup?_eq_iff {members : List (String × Value)} {key : String} {v? : Option Value} :
    lookup? members key = v? ↔ Holds members key v? := by
  cases v? with
  | none =>
    rw [lookup?, Option.map_eq_none_iff, find?_key_eq_none, List.map_reverse, List.mem_reverse]
    rfl
  | some v =>
    rw [lookup?, Option.map_eq_some_iff]
    constructor
    · rintro ⟨⟨key', v'⟩, hfound, rfl⟩
      obtain ⟨hkey, before, after, hsplit, hbefore⟩ := List.find?_eq_some_iff_append.1 hfound
      obtain rfl : key' = key := eq_of_beq hkey
      refine ⟨after.reverse, before.reverse, ?_, ?_⟩
      · rw [← List.reverse_reverse members, hsplit]
        simp
      · rw [List.map_reverse, List.mem_reverse, ← find?_key_eq_none, List.find?_eq_none]
        exact fun m hm => by simpa using hbefore m hm
    · rintro ⟨front, back, rfl, hback⟩
      refine ⟨(key, v), List.find?_eq_some_iff_append.2
        ⟨beq_self_eq_true key, back.reverse, front.reverse, by simp, fun m hm => ?_⟩, rfl⟩
      have hnone := List.find?_eq_none.1 (find?_key_eq_none.2 hback) m (List.mem_reverse.1 hm)
      simpa using hnone

/-- Keys beside values: what stands at the place of a key. -/
theorem lookup_zip {keys : List String} {items : List Value} (h : items.length ≤ keys.length)
    (key : String) : (keys.zip items).lookup key = items[keys.idxOf key]? := by
  induction keys generalizing items with
  | nil =>
    rw [List.length_eq_zero_iff.1 (Nat.le_zero.1 h)]
    rfl
  | cons k keys ih =>
    cases items with
    | nil => rfl
    | cons item items =>
      have hle : items.length ≤ keys.length := Nat.le_of_succ_le_succ h
      by_cases hkey : key = k
      · subst hkey
        simp
      · rw [List.zip_cons_cons, List.lookup_cons, beq_false_of_ne hkey, ih hle,
          List.idxOf_cons_ne keys (Ne.symm hkey)]
        simp

end ExtensionCatalogue.Json
