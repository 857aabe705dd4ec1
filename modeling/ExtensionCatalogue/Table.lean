/-!
# Tables

A finite map with string keys, as a list of entries in which no key stands twice. Each operation
is described by what `get?` sees of it.
-/

namespace ExtensionCatalogue

structure Table (α : Type) where
  entries : List (String × α)
  deriving DecidableEq, Repr

namespace Table

variable {α : Type}

def empty : Table α := ⟨[]⟩

instance : Inhabited (Table α) := ⟨empty⟩

def get? (t : Table α) (key : String) : Option α :=
  t.entries.lookup key

def contains (t : Table α) (key : String) : Bool :=
  (t.get? key).isSome

def erase (t : Table α) (key : String) : Table α :=
  ⟨t.entries.filter (·.1 ≠ key)⟩

/-- The table with `value` for `key`, whatever it had there. -/
def insert (t : Table α) (key : String) (value : α) : Table α :=
  ⟨(key, value) :: (t.erase key).entries⟩

/-- The entries whose value satisfies `p`. -/
def filter (p : α → Bool) (t : Table α) : Table α :=
  ⟨t.entries.filter (p ·.2)⟩

def size (t : Table α) : Nat := t.entries.length

def isEmpty (t : Table α) : Bool := t.entries.isEmpty

def keys (t : Table α) : List String := t.entries.map (·.1)

/-- No key stands twice. -/
def Distinct (t : Table α) : Prop := t.keys.Nodup

@[simp] theorem get?_empty (key : String) : (empty : Table α).get? key = none := rfl

theorem mem_keys_iff {t : Table α} {key : String} : key ∈ t.keys ↔ t.contains key = true := by
  rw [keys, List.mem_map, contains, get?, List.lookup_isSome_iff]
  simp only [beq_iff_eq, @eq_comm _ key]

theorem lookup_filter_ne (es : List (String × α)) (a b : String) :
    (es.filter (·.1 ≠ a)).lookup b = if b = a then none else es.lookup b := by
  induction es with
  | nil => simp
  | cons e es ih =>
    obtain ⟨k, v⟩ := e
    by_cases hk : k = a
    · rw [List.filter_cons_of_neg (by simpa using hk), ih]
      by_cases hb : b = a
      · simp [hb]
      · have : (b == k) = false := beq_eq_false_iff_ne.2 (hk ▸ hb)
        simp [hb, List.lookup_cons, this]
    · rw [List.filter_cons_of_pos (by simpa using hk), List.lookup_cons, List.lookup_cons, ih]
      by_cases hb : b = a
      · have : (b == k) = false := beq_eq_false_iff_ne.2 (hb ▸ Ne.symm hk)
        simp only [this, if_pos hb]
      · simp [hb]

@[simp] theorem get?_erase (t : Table α) (a b : String) :
    (t.erase a).get? b = if b = a then none else t.get? b :=
  lookup_filter_ne t.entries a b

theorem erase_comm (t : Table α) (a b : String) : (t.erase a).erase b = (t.erase b).erase a := by
  simp only [erase, List.filter_filter, Bool.and_comm]

@[simp] theorem get?_insert (t : Table α) (a b : String) (v : α) :
    (t.insert a v).get? b = if b = a then some v else t.get? b := by
  by_cases h : b = a
  · simp [insert, get?, h]
  · simp only [insert, get?, List.lookup_cons, beq_eq_false_iff_ne.2 h, if_neg h]
    exact (lookup_filter_ne t.entries a b).trans (if_neg h)

theorem Distinct.erase {t : Table α} (h : t.Distinct) (key : String) :
    (t.erase key).Distinct :=
  h.sublist (List.filter_sublist.map _)

theorem Distinct.filter {t : Table α} (h : t.Distinct) (p : α → Bool) : (t.filter p).Distinct :=
  h.sublist (List.filter_sublist.map _)

theorem Distinct.insert {t : Table α} (h : t.Distinct) (key : String) (v : α) :
    (t.insert key v).Distinct := by
  refine List.nodup_cons.2 ⟨?_, h.erase key⟩
  simp [Table.erase]

/-- Where each key stands once, nothing comes to light behind an entry that is left out. -/
theorem lookup_filter {es : List (String × α)} (h : (es.map (·.1)).Nodup) (p : α → Bool)
    (key : String) : (es.filter (p ·.2)).lookup key = (es.lookup key).filter p := by
  induction es with
  | nil => rfl
  | cons e es ih =>
    obtain ⟨k, v⟩ := e
    obtain ⟨hk, hes⟩ := List.nodup_cons.1 h
    cases hp : p v with
    | true =>
      rw [List.filter_cons_of_pos (by exact hp), List.lookup_cons, List.lookup_cons, ih hes]
      cases key == k with
      | true => exact (Option.filter_some_pos hp).symm
      | false => rfl
    | false =>
      rw [List.filter_cons_of_neg (by simp [hp]), List.lookup_cons, ih hes]
      by_cases hkey : key = k
      · subst hkey
        have hnone : es.lookup key = none := List.lookup_eq_none_iff.2 fun e he =>
          bne_iff_ne.2 fun heq => hk (List.mem_map.2 ⟨e, he, heq.symm⟩)
        simp [hnone, Option.filter_some, hp]
      · rw [beq_eq_false_iff_ne.2 hkey]

theorem Distinct.get?_filter {t : Table α} (h : t.Distinct) (p : α → Bool) (key : String) :
    (t.filter p).get? key = (t.get? key).filter p :=
  lookup_filter h p key

end Table

end ExtensionCatalogue
