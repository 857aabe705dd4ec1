import ExtensionCatalogue.Json.Record
import ExtensionCatalogue.Proofs.Json.Token
import Mathlib.Data.List.Forall2
import Mathlib.Data.List.Nodup

/-!
# Values and records are read back

A value is read back from its text if its numbers are and it is not nested too deep. Numbers are
the only doubt, since a double may not survive its decimal text, so the equations for containers
keep what each part is read as. A record without unknown or repeated keys is read as its object.
-/

namespace ExtensionCatalogue.Json

theorem mapM_eq_some_iff {α β : Type} {f : α → Option β} {xs : List α} {ys : List β} :
    xs.mapM f = some ys ↔ List.Forall₂ (fun x y => f x = some y) xs ys := by
  induction xs generalizing ys with
  | nil =>
    rw [List.mapM_nil, List.forall₂_nil_left_iff]
    exact ⟨fun h => (Option.some.inj h).symm, fun h => congrArg some h.symm⟩
  | cons x xs ih =>
    rw [List.mapM_cons, List.forall₂_cons_left_iff]
    constructor
    · intro h
      obtain ⟨y, hy, h⟩ := Option.bind_eq_some_iff.1 h
      obtain ⟨zs, hzs, h⟩ := Option.bind_eq_some_iff.1 h
      exact ⟨y, zs, hy, ih.1 hzs, (Option.some.inj h).symm⟩
    · rintro ⟨y, zs, hy, hzs, rfl⟩
      rw [hy, ih.2 hzs]
      rfl

theorem exists_of_forall₂ {α β : Type} {R : α → β → Prop} {xs : List α} {ys : List β}
    (h : List.Forall₂ R xs ys) {x : α} (hx : x ∈ xs) : ∃ y ∈ ys, R x y := by
  induction h with
  | nil => cases hx
  | cons hr _ ih =>
    rcases List.mem_cons.1 hx with rfl | hx
    · exact ⟨_, List.mem_cons_self, hr⟩
    · obtain ⟨y, hy, hr⟩ := ih hx
      exact ⟨y, List.mem_cons_of_mem _ hy, hr⟩

theorem mapM_some_of_forall {α β : Type} {f : α → Option β} {g : α → β} {xs : List α}
    (h : ∀ x ∈ xs, f x = some (g x)) : xs.mapM f = some (xs.map g) :=
  mapM_eq_some_iff.2 (List.forall₂_map_right_iff.2 (List.forall₂_same.2 h))

theorem mem_of_mapM_eq_some {α β : Type} {f : α → Option β} {xs : List α} {ys : List β}
    (h : xs.mapM f = some ys) {y : β} (hy : y ∈ ys) : ∃ x ∈ xs, f x = some y :=
  exists_of_forall₂ (mapM_eq_some_iff.1 h).flip hy

theorem filterMap_of_mapM_eq_some {α β : Type} {f : α → Option β} {xs : List α} {ys : List β}
    (h : xs.mapM f = some ys) : xs.filterMap f = ys := by
  induction mapM_eq_some_iff.1 h with
  | nil => rfl
  | cons hy hys ih => rw [List.filterMap_cons_some hy, ih (mapM_eq_some_iff.2 hys)]

/-! ## What the parts of a value are read as -/

/-- What a number's text is read as. -/
def Number.heard (n : Number) : Option Value := Value.read? (Utf8.bytes (Value.number n).write)

namespace Value

@[simp] theorem ofNode?_text (depth : Nat) (s : String) :
    ofNode? depth (Value.text s).node = some (.text s) := by
  cases depth <;> simp [node, ofNode?]

@[simp] theorem ofNode?_boolean (depth : Nat) (b : Bool) :
    ofNode? depth (Value.boolean b).node = some (.boolean b) := by
  cases depth <;> rfl

/-- A number is read alike at any depth. -/
@[simp] theorem ofNode?_number (depth : Nat) (n : Number) :
    ofNode? depth (Value.number n).node = n.heard := by
  rw [Number.heard, read?_write]
  show ofNode? depth n.node = ofNode? depthLimit n.node
  unfold Number.node
  cases Numeral.ofChars? n.chars <;> cases depth <;> rfl

theorem ofNode?_array (depth : Nat) (vs : List Value) :
    ofNode? (depth + 1) (Value.array vs).node =
      (vs.mapM fun v => ofNode? depth v.node).map .array := by
  rw [node, itemNodes_eq, ofNode?, List.mapM_map]
  rfl

/-- A member as it is read: its key, and what its value is read as. -/
def member? (depth : Nat) (m : String × Value) : Option (String × Value) :=
  (ofNode? depth m.2.node).map (m.1, ·)

theorem ofNode?_object (depth : Nat) (ms : List (String × Value)) :
    ofNode? (depth + 1) (Value.object ms).node = (ms.mapM (member? depth)).map .object := by
  have hmember : (fun m : String × Value => do
      return (← Literal.text? (Literal.ofText m.1), ← ofNode? depth m.2.node)) =
      member? depth := by
    funext m
    rw [Literal.text?_ofText, member?]
    cases ofNode? depth m.2.node <;> rfl
  rw [node, memberNodes_eq, ofNode?, List.mapM_map, ← hmember]
  rfl

/-! ## Values that are read back -/

/-- A value with at most `depth` containers inside one another, whose numbers are read back. -/
inductive Readable : Nat → Value → Prop
  | null {depth : Nat} : Readable depth .null
  | boolean {depth : Nat} (b : Bool) : Readable depth (.boolean b)
  | number {depth : Nat} {n : Number} (h : n.heard = some (.number n)) :
      Readable depth (.number n)
  | text {depth : Nat} (s : String) : Readable depth (.text s)
  | array {depth : Nat} {vs : List Value} (h : ∀ v ∈ vs, Readable depth v) :
      Readable (depth + 1) (.array vs)
  | object {depth : Nat} {ms : List (String × Value)} (h : ∀ m ∈ ms, Readable depth m.2) :
      Readable (depth + 1) (.object ms)

theorem Readable.ofNode? {depth : Nat} {v : Value} (h : Readable depth v) :
    Value.ofNode? depth v.node = some v := by
  induction h with
  | null => rename_i depth; cases depth <;> rfl
  | boolean b => exact ofNode?_boolean _ b
  | number h => rw [ofNode?_number, h]
  | text s => exact ofNode?_text _ s
  | array _ ih =>
    rw [ofNode?_array, mapM_some_of_forall (g := id) ih, List.map_id]
    rfl
  | @object depth ms _ ih =>
    have hmember : ∀ m ∈ ms, member? depth m = some (id m) := by
      intro m hm
      rw [member?, ih m hm]
      rfl
    rw [ofNode?_object, mapM_some_of_forall hmember, List.map_id]
    rfl

/-- **A value is read back from its text.** -/
theorem Readable.read? {v : Value} (h : Readable depthLimit v) :
    Value.read? (Utf8.bytes v.write) = some v := by
  rw [read?_write, h.ofNode?]

theorem Readable.members {depth : Nat} {ms : List (String × Value)}
    (h : ∀ m ∈ ms, Readable depth m.2) : ms.mapM (member? depth) = some ms := by
  have hmember : ∀ m ∈ ms, member? depth m = some (id m) := by
    intro m hm
    rw [member?, (h m hm).ofNode?]
    rfl
  rw [mapM_some_of_forall hmember, List.map_id]

/-- An object with one member in doubt. -/
theorem ofNode?_object_around {depth : Nat} {front back : List (String × Value)}
    (hfront : ∀ m ∈ front, Readable depth m.2) (hback : ∀ m ∈ back, Readable depth m.2)
    (key : String) (v : Value) :
    ofNode? (depth + 1) (Value.object (front ++ (key, v) :: back)).node =
      (ofNode? depth v.node).map fun r => .object (front ++ (key, r) :: back) := by
  rw [ofNode?_object, List.mapM_append, List.mapM_cons, Readable.members hfront,
    Readable.members hback, member?]
  cases ofNode? depth v.node <;> rfl

/-- Integers of 64 bits are read back. -/
theorem Readable.integer {depth n : Nat} (h : n ≤ largestWord) :
    Readable depth (.number (.integer n)) := by
  have hnode : (Number.integer n).node = .number (.ofInt n) := by
    rw [Number.node, Number.chars_integer, Numeral.ofChars?_chars (Numeral.wellFormed_ofInt n)]
  refine .number ?_
  rw [Number.heard, read?_write]
  show Value.ofNode? depthLimit (Number.integer n).node = some (.number (.integer n))
  rw [hnode]
  show (Numeral.ofInt n).value?.map Value.number = some (.number (.integer n))
  rw [Numeral.value?_ofInt h]
  rfl

theorem list?_text (ss : List String) : list? text? (.array (ss.map .text)) = some ss := by
  have hitems : ss.mapM (text? ∘ Value.text) = some (ss.map id) :=
    mapM_some_of_forall fun _ _ => rfl
  show (ss.map Value.text).mapM text? = some ss
  rw [List.mapM_map, hitems, List.map_id]

end Value

/-! ## Records -/

/-- Among distinct keys each has its value. -/
theorem lookup?_of_mem {ms : List (String × Value)} (h : (ms.map (·.1)).Nodup) {key : String}
    {v : Value} (hm : (key, v) ∈ ms) : lookup? ms key = some v := by
  have hunique : ∀ m ∈ ms, m.1 = key → m = (key, v) := fun m hmem hkey =>
    List.inj_on_of_nodup_map h hmem hm hkey
  have hfind : ms.reverse.find? (·.1 == key) = some (key, v) := by
    cases hfound : ms.reverse.find? (·.1 == key) with
    | none =>
      have := List.find?_eq_none.1 hfound (key, v) (List.mem_reverse.2 hm)
      exact absurd (beq_self_eq_true key) this
    | some m =>
      have hmem : m ∈ ms := List.mem_reverse.1 (List.mem_of_find?_eq_some hfound)
      have hkey : m.1 = key := by simpa using List.find?_some hfound
      rw [hunique m hmem hkey]
  rw [lookup?, hfind]
  rfl

theorem lookup?_of_not_mem {ms : List (String × Value)} {key : String}
    (h : key ∉ ms.map (·.1)) : lookup? ms key = none := by
  have hfind : ms.reverse.find? (·.1 == key) = none := by
    refine List.find?_eq_none.2 fun m hm hkey => h ?_
    exact List.mem_map.2 ⟨m, List.mem_reverse.1 hm, eq_of_beq hkey⟩
  rw [lookup?, hfind]
  rfl

section

variable {α : Type} {ms : List (String × Value)} {key : String} {v : Value}

theorem required?_of_mem (h : (ms.map (·.1)).Nodup) (hm : (key, v) ∈ ms)
    (read? : Value → Option α) : required? read? (lookup? ms key) = read? v := by
  rw [lookup?_of_mem h hm]
  rfl

theorem optional?_of_mem (h : (ms.map (·.1)).Nodup) (hm : (key, v) ∈ ms) (default : α)
    (read? : Value → Option α) : optional? default read? (lookup? ms key) = read? v := by
  rw [lookup?_of_mem h hm]
  rfl

theorem optional?_of_not_mem (h : key ∉ ms.map (·.1)) (default : α)
    (read? : Value → Option α) : optional? default read? (lookup? ms key) = some default := by
  rw [lookup?_of_not_mem h]
  rfl

end

/-- **A record's text** with known and distinct keys is read as its object. -/
theorem Node.record?_object {keys : List String} {ms : List (String × Value)}
    (hkeys : ∀ m ∈ ms, m.1 ∈ keys) (hdistinct : (ms.map (·.1)).Nodup) :
    (Value.object ms).node.record? keys = Value.ofNode? (depthLimit + 1) (Value.object ms).node := by
  have hunique : uniqueKeys keys ((ms.map fun m => (m.1, m.2.node)).map (·.1)) = true := by
    rw [List.map_map]
    exact List.all_eq_true.2 fun key _ =>
      decide_eq_true (List.nodup_iff_count_le_one.1 hdistinct key)
  rw [Value.ofNode?_object, Value.node, Node.record?, memberNodes_eq, List.mapM_map,
    mapM_some_of_forall (g := fun m => (m.1, m.2.node)), Option.bind_eq_bind, Option.bind_some,
    if_pos hunique, List.filter_eq_self.2]
  · dsimp only
    rw [List.mapM_map, Option.map_eq_bind]
    -- both read each member alike
    refine congrArg (fun f : String × Value → Option (String × Value) =>
      (ms.mapM f).bind (some ∘ Value.object)) (funext fun m => ?_)
    show ((Value.ofNode? depthLimit m.2.node).bind fun v => some (m.1, v)) = _
    rw [Value.member?]
    cases Value.ofNode? depthLimit m.2.node <;> rfl
  · intro x hx
    obtain ⟨m, hm, rfl⟩ := List.mem_map.1 hx
    exact List.contains_iff_mem.2 (hkeys m hm)
  · intro m _
    show ((Literal.ofText m.1).text?.bind fun key => some (key, m.2.node)) = _
    rw [Literal.text?_ofText]
    rfl

end ExtensionCatalogue.Json
