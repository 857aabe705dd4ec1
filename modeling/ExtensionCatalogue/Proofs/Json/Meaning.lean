import ExtensionCatalogue.Proofs.Json.Value

/-!
# What a tree stands for

A JSON text may be well formed and yet stand for no value: a number may be too large for a double,
an escape may be one half of a character, and containers may be nested too deep. `Node.Means` says
which value a tree stands for, if any, and the reader of values finds this one
(`Value.ofNode?_eq_some_iff`).
-/

namespace ExtensionCatalogue.Json

/-- What a tree stands for if at most `depth` containers may be open at once. The parts of a
container stand for those of its value, in order. -/
inductive Node.Means : Nat → Node → Value → Prop
  | null {depth : Nat} : Means depth .null .null
  | boolean {depth : Nat} (b : Bool) : Means depth (.boolean b) (.boolean b)
  | number {depth : Nat} {m : Numeral} {x : Number} (h : m.value? = some x) :
      Means depth (.number m) (.number x)
  | text {depth : Nat} {l : Literal} {s : String} (h : Literal.text? l = some s) :
      Means depth (.text l) (.text s)
  | array {depth : Nat} {items : List Node} {vs : List Value} (hlength : items.length = vs.length)
      (h : ∀ n v, (n, v) ∈ items.zip vs → Means depth n v) :
      Means (depth + 1) (.array items) (.array vs)
  | object {depth : Nat} {members : List (Literal × Node)} {ms : List (String × Value)}
      (hlength : members.length = ms.length)
      (hkey : ∀ m r, (m, r) ∈ members.zip ms → Literal.text? m.1 = some r.1)
      (h : ∀ m r, (m, r) ∈ members.zip ms → Means depth m.2 r.2) :
      Means (depth + 1) (.object members) (.object ms)

theorem Node.Means.ofNode? {depth : Nat} {n : Node} {v : Value} (h : n.Means depth v) :
    Value.ofNode? depth n = some v := by
  induction h with
  | null | boolean b => rw [Value.ofNode?]
  | number h | text h =>
    rw [Value.ofNode?, h]
    rfl
  | array hlength _ ih =>
    have hitems := List.forall₂_iff_zip.2 ⟨hlength, fun hm => ih _ _ hm⟩
    rw [Value.ofNode?, mapM_eq_some_iff.2 hitems]
    rfl
  | object hlength hkey _ ih =>
    rw [Value.ofNode?, mapM_eq_some_iff.2 (List.forall₂_iff_zip.2 ⟨hlength, fun hm => ?_⟩)]
    · rfl
    · dsimp only
      rw [hkey _ _ hm, ih _ _ hm]
      rfl

theorem Node.means_of_ofNode? : ∀ (depth : Nat) (n : Node) {v : Value},
    Value.ofNode? depth n = some v → n.Means depth v
  | _, .null, _, h => by
    rw [Value.ofNode?] at h
    cases h
    exact .null
  | _, .boolean b, _, h => by
    rw [Value.ofNode?] at h
    cases h
    exact .boolean b
  | _, .number m, _, h => by
    rw [Value.ofNode?] at h
    obtain ⟨x, hx, rfl⟩ := Option.map_eq_some_iff.1 h
    exact .number hx
  | _, .text l, _, h => by
    rw [Value.ofNode?] at h
    obtain ⟨s, hs, rfl⟩ := Option.map_eq_some_iff.1 h
    exact .text hs
  | 0, .array _, _, h | 0, .object _, _, h => nomatch h
  | depth + 1, .array items, _, h => by
    obtain ⟨vs, hvs, rfl⟩ := Option.map_eq_some_iff.1 h
    obtain ⟨hlength, hitems⟩ := List.forall₂_iff_zip.1 (mapM_eq_some_iff.1 hvs)
    exact .array hlength fun n v hm => means_of_ofNode? depth n (hitems hm)
  | depth + 1, .object members, _, h => by
    obtain ⟨ms, hms, rfl⟩ := Option.map_eq_some_iff.1 h
    obtain ⟨hlength, hmembers⟩ := List.forall₂_iff_zip.1 (mapM_eq_some_iff.1 hms)
    have hmember : ∀ m r, (m, r) ∈ members.zip ms →
        Literal.text? m.1 = some r.1 ∧ Value.ofNode? depth m.2 = some r.2 := by
      intro m r hm
      obtain ⟨key, hkey, hread⟩ := Option.bind_eq_some_iff.1 (hmembers hm)
      obtain ⟨v, hv, hpair⟩ := Option.bind_eq_some_iff.1 hread
      cases hpair
      exact ⟨hkey, hv⟩
    exact .object hlength (fun m r hm => (hmember m r hm).1)
      fun m r hm => means_of_ofNode? depth m.2 (hmember m r hm).2

/-- **A tree is read as the value that it stands for.** -/
theorem Value.ofNode?_eq_some_iff {depth : Nat} {n : Node} {v : Value} :
    ofNode? depth n = some v ↔ n.Means depth v :=
  ⟨n.means_of_ofNode? depth, Node.Means.ofNode?⟩

theorem Node.means_array_iff {depth : Nat} {items : List Node} {v : Value} :
    (Node.array items).Means (depth + 1) v ↔
      ∃ vs, List.Forall₂ (Node.Means depth) items vs ∧ v = .array vs := by
  constructor
  · rintro (_ | _ | _ | _ | ⟨hlength, h⟩)
    exact ⟨_, List.forall₂_iff_zip.2 ⟨hlength, fun hm => h _ _ hm⟩, rfl⟩
  · rintro ⟨vs, hvs, rfl⟩
    obtain ⟨hlength, h⟩ := List.forall₂_iff_zip.1 hvs
    exact .array hlength fun _ _ hm => h hm

end ExtensionCatalogue.Json
