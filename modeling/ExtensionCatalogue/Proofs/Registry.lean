import ExtensionCatalogue.Registry
import Mathlib.Data.List.Nodup

/-!
# Registries as lists

A registry is described by its list of packages alone. `firsts` keeps the first package of each
id, and `Registry.ofPackages` computes it. In a `Sound` registry the index is the search through
the list, so a package is found where it stands, and setting a flag is a map over the list.
-/

namespace ExtensionCatalogue

/-- The first package of each id, in order. -/
def firsts : List Package → List Package
  | [] => []
  | p :: ps => p :: (firsts ps).filter (·.id ≠ p.id)

/-- The first package of each id that is not known, in order. -/
def fresh (known : String → Bool) (ps : List Package) : List Package :=
  (firsts ps).filter (!known ·.id)

/-- The other packages: those of a known id, or with one of the same id before them. -/
def repeats (known : String → Bool) : List Package → List Package
  | [] => []
  | p :: ps =>
    if known p.id then p :: repeats known ps
    else repeats (fun id => decide (id = p.id) || known id) ps

namespace Package

/-- The package with the flag, or with its own if there is none. -/
def withFlag (p : Package) (flag? : Option Bool) : Package :=
  { p with installed := flag?.getD p.installed }

/-- The package with its flag set, if it has this id. -/
def flagged (id : String) (value : Bool) (p : Package) : Package :=
  if p.id = id then { p with installed := value } else p

@[simp] theorem withFlag_none (p : Package) : p.withFlag none = p := rfl

theorem withFlag_withFlag (p : Package) (a b : Option Bool) :
    (p.withFlag a).withFlag b = p.withFlag (b.or a) := by
  cases b <;> rfl

@[simp] theorem flagged_id (id : String) (value : Bool) (p : Package) :
    (p.flagged id value).id = p.id := by
  unfold flagged; split <;> rfl

theorem flagged_eq (id : String) (value : Bool) (p : Package) :
    p.flagged id value = p.withFlag (if id = p.id then some value else none) := by
  unfold flagged
  by_cases h : p.id = id
  · rw [if_pos h, if_pos h.symm]
    rfl
  · rw [if_neg h, if_neg (Ne.symm h)]
    rfl

theorem map_flagged_of_absent {id : String} {ps : List Package} (h : ∀ p ∈ ps, p.id ≠ id)
    (value : Bool) : ps.map (flagged id value) = ps := by
  have hsame : ∀ p ∈ ps, p.flagged id value = p := fun p hp => if_neg (h p hp)
  rw [List.map_congr_left hsame, List.map_id']

/-- Where no id stands twice, setting the flag of the first package leaves the others. -/
theorem map_flagged_head {p : Package} {ps : List Package} (h : ((p :: ps).map (·.id)).Nodup)
    (value : Bool) :
    (p :: ps).map (flagged p.id value) = { p with installed := value } :: ps := by
  rw [List.map_cons, List.nodup_cons] at h
  have habsent : ∀ q ∈ ps, q.id ≠ p.id := fun q hq hid => h.1 (List.mem_map.2 ⟨q, hq, hid⟩)
  rw [List.map_cons, map_flagged_of_absent habsent, flagged, if_pos rfl]

end Package

/-! ## First packages -/

theorem eraseDups_filter (q : String → Bool) :
    ∀ l : List String, (l.filter q).eraseDups = l.eraseDups.filter q
  | [] => rfl
  | a :: l => by
    have hlen : (l.filter fun b => !b == a).length < (a :: l).length :=
      Nat.lt_succ_of_le (List.length_filter_le _ _)
    have ih := eraseDups_filter q (l.filter fun b => !b == a)
    rw [List.eraseDups_cons]
    by_cases ha : q a = true
    · rw [List.filter_cons_of_pos ha, List.filter_cons_of_pos ha, List.eraseDups_cons, ← ih,
        List.filter_filter, List.filter_filter]
      simp only [Bool.and_comm]
    · rw [List.filter_cons_of_neg ha, List.filter_cons_of_neg ha, ← ih, List.filter_filter]
      -- whatever `q` keeps is not `a`
      congr 1
      refine List.filter_congr fun b _ => ?_
      by_cases hb : b = a
      · simp [hb, ha]
      · simp [hb]
termination_by l => l.length
decreasing_by exact hlen

theorem ids_firsts (ps : List Package) :
    (firsts ps).map (·.id) = (ps.map (·.id)).eraseDups := by
  induction ps with
  | nil => rfl
  | cons p ps ih =>
    rw [List.map_cons, List.eraseDups_cons, eraseDups_filter, ← ih, firsts, List.map_cons,
      List.filter_map]
    congr 2
    exact List.filter_congr fun q _ => Bool.eq_iff_iff.2 (by simp)

theorem firsts_sublist (ps : List Package) : (firsts ps).Sublist ps := by
  induction ps with
  | nil => exact .slnil
  | cons p ps ih => exact (List.filter_sublist.trans ih).cons_cons p

/-- The first package of an id stays the first one. -/
theorem find?_firsts (ps : List Package) (id : String) :
    (firsts ps).find? (·.id = id) = ps.find? (·.id = id) := by
  induction ps with
  | nil => rfl
  | cons p ps ih =>
    rw [firsts, List.find?_cons, List.find?_cons]
    by_cases hp : p.id = id
    · simp only [hp, decide_true]
    · simp only [hp, decide_false]
      rw [← ih, List.find?_filter]
      congr 1
      funext q
      by_cases hq : q.id = id
      · simp [hq, Ne.symm hp]
      · simp [hq]

theorem firsts_of_nodup {ps : List Package} (h : (ps.map (·.id)).Nodup) : firsts ps = ps := by
  induction ps with
  | nil => rfl
  | cons p ps ih =>
    rw [List.map_cons, List.nodup_cons] at h
    rw [firsts, ih h.2, List.filter_eq_self.2]
    intro q hq
    exact decide_eq_true fun hid => h.1 (List.mem_map.2 ⟨q, hq, hid⟩)

section

variable {known : String → Bool} {p : Package}

/-- A package of a known id makes no difference to the packages after it. -/
theorem fresh_cons_of_known (h : known p.id = true) (ps : List Package) :
    fresh known (p :: ps) = fresh known ps := by
  rw [fresh, firsts, List.filter_cons_of_neg (by simp [h]), List.filter_filter]
  refine List.filter_congr fun q _ => ?_
  by_cases hq : q.id = p.id
  · simp [hq, h]
  · simp [hq]

/-- The id of a package is known to the packages after it. -/
theorem fresh_cons_of_unknown (h : known p.id = false) (ps : List Package) :
    fresh known (p :: ps) = p :: fresh (fun id => decide (id = p.id) || known id) ps := by
  rw [fresh, firsts, List.filter_cons_of_pos (by simp [h]), List.filter_filter, fresh]
  simp only [Bool.not_or, Bool.and_comm, decide_not]

end

/-- Where no id is known, the first package of every id is fresh. -/
theorem fresh_of_none (ps : List Package) : fresh (fun _ => false) ps = firsts ps :=
  List.filter_eq_self.2 fun _ _ => rfl

theorem repeats_sublist (known : String → Bool) (ps : List Package) :
    (repeats known ps).Sublist ps := by
  induction ps generalizing known with
  | nil => exact .slnil
  | cons p ps ih =>
    rw [repeats]
    split
    · exact (ih known).cons_cons p
    · exact (ih _).cons p

/-- Each package is the first one of an unknown id, or it repeats an id. -/
theorem perm_repeats (known : String → Bool) (ps : List Package) :
    (fresh known ps ++ repeats known ps).Perm ps := by
  induction ps generalizing known with
  | nil => exact .nil
  | cons p ps ih =>
    rw [repeats]
    cases hp : known p.id with
    | true =>
      rw [fresh_cons_of_known hp, if_pos rfl]
      exact List.perm_middle.trans ((ih known).cons p)
    | false =>
      rw [fresh_cons_of_unknown hp, if_neg Bool.false_ne_true]
      exact (ih _).cons p

theorem firsts_map {f : Package → Package} (hf : ∀ p, (f p).id = p.id) (ps : List Package) :
    firsts (ps.map f) = (firsts ps).map f := by
  induction ps with
  | nil => rfl
  | cons p ps ih =>
    have htest : (fun q : Package => decide (q.id ≠ (f p).id)) ∘ f =
        fun q => decide (q.id ≠ p.id) := by
      funext q; simp [hf]
    rw [List.map_cons, firsts, firsts, ih, List.filter_map, htest, List.map_cons]

namespace Registry

/-- The registry with a change to each package. -/
def map (f : Package → Package) (r : Registry) : Registry := ⟨r.packages.map f, r.index⟩

@[simp] theorem map_id (r : Registry) : r.map (fun p => p) = r := by
  simp [map]

theorem map_map (f g : Package → Package) (r : Registry) :
    (r.map f).map g = r.map fun p => g (f p) := by
  simp [map]

/-- The index finds each id where it stands, and no id stands twice. -/
structure Sound (r : Registry) : Prop where
  nodup : (r.packages.map (·.id)).Nodup
  index : ∀ id, r.index.get? id = r.packages.findIdx? (·.id = id)

/-! ## Filling -/

theorem contains_push (r : Registry) (p : Package) (id : String) :
    (r.push p).contains id = (decide (id = p.id) || r.contains id) := by
  simp only [contains, push, Table.contains, Table.get?_insert]
  split <;> simp_all

theorem extend_cons_of_contains {r : Registry} {p : Package} (h : r.contains p.id = true)
    (ps : List Package) : (r.extend (p :: ps)).1 = (r.extend ps).1 := by
  have h' : r.index.contains p.id = true := h
  rw [extend, if_pos h']

theorem extend_cons_of_not_contains {r : Registry} {p : Package} (h : r.contains p.id = false)
    (ps : List Package) : r.extend (p :: ps) = (r.push p).extend ps := by
  have h' : ¬ r.index.contains p.id = true := Bool.eq_false_iff.1 h
  rw [extend, if_neg h']

theorem packages_extend (r : Registry) (ps : List Package) :
    (r.extend ps).1.packages = r.packages ++ fresh r.contains ps := by
  induction ps generalizing r with
  | nil => exact (List.append_nil _).symm
  | cons p ps ih =>
    cases hp : r.contains p.id with
    | true => rw [extend_cons_of_contains hp, ih, fresh_cons_of_known hp]
    | false =>
      rw [extend_cons_of_not_contains hp, ih, fresh_cons_of_unknown hp, funext (r.contains_push p)]
      exact List.append_assoc ..

@[simp] theorem packages_ofPackages (ps : List Package) :
    (ofPackages ps).1.packages = firsts ps :=
  (packages_extend empty ps).trans (fresh_of_none ps)

/-- The packages that repeat an id make no difference. -/
theorem extend_fresh (r : Registry) (ps : List Package) :
    (r.extend (fresh r.contains ps)).1 = (r.extend ps).1 := by
  induction ps generalizing r with
  | nil => rfl
  | cons p ps ih =>
    cases hp : r.contains p.id with
    | true => rw [fresh_cons_of_known hp, ih, extend_cons_of_contains hp]
    | false =>
      rw [fresh_cons_of_unknown hp, extend_cons_of_not_contains hp, extend_cons_of_not_contains hp,
        ← ih, funext (r.contains_push p)]

theorem extend_map {f : Package → Package} (hf : ∀ p, (f p).id = p.id) (r : Registry)
    (ps : List Package) : ((r.map f).extend (ps.map f)).1 = (r.extend ps).1.map f := by
  induction ps generalizing r with
  | nil => rfl
  | cons p ps ih =>
    rw [List.map_cons]
    cases hp : r.contains p.id with
    | true =>
      have hfp : (r.map f).contains (f p).id = true := hf p ▸ hp
      rw [extend_cons_of_contains hp, extend_cons_of_contains hfp, ih]
    | false =>
      have hfp : (r.map f).contains (f p).id = false := hf p ▸ hp
      have hpush : (r.map f).push (f p) = (r.push p).map f := by simp [push, map, hf]
      rw [extend_cons_of_not_contains hp, extend_cons_of_not_contains hfp, hpush, ih]

/-- A change that keeps the ids may come before or after the registry is filled. -/
theorem ofPackages_map {f : Package → Package} (hf : ∀ p, (f p).id = p.id) (ps : List Package) :
    (ofPackages (ps.map f)).1 = (ofPackages ps).1.map f :=
  extend_map hf empty ps

/-- There is a notice for each package that repeats an id. -/
theorem notices_extend (r : Registry) (ps : List Package) :
    (r.extend ps).2 = (repeats r.contains ps).map fun p => .duplicateResult p.id := by
  induction ps generalizing r with
  | nil => rfl
  | cons p ps ih =>
    rw [repeats]
    cases hp : r.contains p.id with
    | true =>
      have hp' : r.index.contains p.id = true := hp
      rw [extend, if_pos hp', if_pos rfl]
      exact congrArg (Notice.duplicateResult p.id :: ·) (ih r)
    | false =>
      rw [extend_cons_of_not_contains hp, if_neg Bool.false_ne_true, ih,
        funext (r.contains_push p)]

/-- The notices of filling a registry are about repeated packages. -/
theorem duplicate_of_mem_notices {r : Registry} {ps : List Package} {n : Notice}
    (h : n ∈ (r.extend ps).2) : ∃ p ∈ ps, n = .duplicateResult p.id := by
  rw [notices_extend] at h
  obtain ⟨p, hp, rfl⟩ := List.mem_map.1 h
  exact ⟨p, (repeats_sublist _ ps).subset hp, rfl⟩

/-! ## Soundness -/

theorem Sound.empty : Sound empty := ⟨List.nodup_nil, fun _ => rfl⟩

theorem Sound.map {r : Registry} (h : r.Sound) {f : Package → Package}
    (hf : ∀ p, (f p).id = p.id) : (r.map f).Sound where
  nodup := by
    have : (r.packages.map f).map (·.id) = r.packages.map (·.id) := by simp [hf]
    exact this ▸ h.nodup
  index id := by
    rw [Registry.map, List.findIdx?_map, h.index id]
    congr 1; funext p; simp [hf]

theorem Sound.contains {r : Registry} (h : r.Sound) (id : String) :
    r.contains id = r.packages.any (·.id = id) := by
  rw [Registry.contains, Table.contains, h.index, List.findIdx?_isSome]

theorem Sound.push {r : Registry} (h : r.Sound) {p : Package} (hp : r.contains p.id = false) :
    (r.push p).Sound where
  nodup := by
    rw [h.contains, List.any_eq_false] at hp
    rw [Registry.push, List.map_append, List.nodup_append]
    refine ⟨h.nodup, List.pairwise_singleton _ _, ?_⟩
    intro a ha b hb
    obtain ⟨q, hq, rfl⟩ := List.mem_map.1 ha
    obtain rfl := List.mem_singleton.1 hb
    simpa using hp q hq
  index id := by
    simp only [Registry.push, Table.get?_insert, List.findIdx?_append, h.index]
    rw [h.contains, List.any_eq_false] at hp
    by_cases hid : id = p.id
    · have hnone : r.packages.findIdx? (·.id = p.id) = none :=
        List.findIdx?_eq_none_iff.2 fun q hq => by simpa using hp q hq
      simp [hid, hnone]
    · simp [hid, Ne.symm hid]

theorem Sound.extend {r : Registry} (h : r.Sound) (ps : List Package) : (r.extend ps).1.Sound := by
  induction ps generalizing r with
  | nil => exact h
  | cons p ps ih =>
    cases hp : r.contains p.id with
    | true => rw [extend_cons_of_contains hp]; exact ih h
    | false => rw [extend_cons_of_not_contains hp]; exact ih (h.push hp)

theorem Sound.ofPackages (ps : List Package) : (ofPackages ps).1.Sound :=
  Sound.empty.extend ps

/-! ## Reading and setting -/

theorem Sound.get? {r : Registry} (h : r.Sound) (id : String) :
    r.get? id = r.packages.find? (·.id = id) := by
  rw [Registry.get?, h.index, List.find?_eq_bind_findIdx?_getElem?]

theorem Sound.get?_eq_some_iff {r : Registry} (h : r.Sound) {id : String} {p : Package} :
    r.get? id = some p ↔ p ∈ r.packages ∧ p.id = id := by
  rw [h.get?]
  constructor
  · intro hp
    exact ⟨List.mem_of_find?_eq_some hp, by simpa using List.find?_some hp⟩
  · rintro ⟨hp, rfl⟩
    cases hq : r.packages.find? (·.id = p.id) with
    | none => exact absurd (List.find?_eq_none.1 hq p hp) (by simp)
    | some q =>
      have hid : q.id = p.id := by simpa using List.find?_some hq
      rw [List.inj_on_of_nodup_map h.nodup (List.mem_of_find?_eq_some hq) hp hid]

theorem get?_map (f : Package → Package) (r : Registry) (id : String) :
    (r.map f).get? id = (r.get? id).map f := by
  simp only [get?, map, List.getElem?_map, Option.map_bind]
  rfl

/-- What is found under an id depends on the packages of that id. -/
theorem Sound.get?_map_congr {r : Registry} (h : r.Sound) {f g : Package → Package} {id : String}
    (hfg : ∀ p, p.id = id → f p = g p) : (r.map f).get? id = (r.map g).get? id := by
  rw [get?_map, get?_map]
  cases hp : r.get? id with
  | none => rfl
  | some p => exact congrArg some (hfg p (h.get?_eq_some_iff.1 hp).2)

/-- Where no id stands twice, a change at the first place of an id is a change to every package
of that id. -/
theorem modify_findIdx? (id : String) (value : Bool) {ps : List Package} {i : Nat}
    (hnd : (ps.map (·.id)).Nodup) (hi : ps.findIdx? (·.id = id) = some i) :
    ps.modify i ({ · with installed := value }) = ps.map (Package.flagged id value) := by
  induction ps generalizing i with
  | nil => simp at hi
  | cons p ps ih =>
    rw [List.findIdx?_cons] at hi
    by_cases hp : p.id = id
    · subst hp
      simp only [decide_true, ↓reduceIte, Option.some.injEq] at hi
      subst hi
      exact (Package.map_flagged_head hnd value).symm
    · simp only [hp, decide_false, Bool.false_eq_true, ↓reduceIte, Option.map_eq_some_iff] at hi
      obtain ⟨j, hj, rfl⟩ := hi
      rw [List.map_cons, List.nodup_cons] at hnd
      rw [List.modify_succ_cons, List.map_cons, ih hnd.2 hj]
      simp [Package.flagged, hp]

theorem Sound.setInstalled? {r : Registry} (h : r.Sound) (id : String) (value : Bool) :
    r.setInstalled? id value =
      if r.contains id then some (r.map (Package.flagged id value)) else none := by
  cases hi : r.index.get? id with
  | none => simp [Registry.setInstalled?, Registry.contains, Table.contains, hi]
  | some i =>
    have hm := modify_findIdx? id value h.nodup ((h.index id).symm.trans hi)
    simp [Registry.setInstalled?, Registry.contains, Table.contains, hi, Registry.map, hm]

theorem Sound.map_flagged {r : Registry} (h : r.Sound) {id : String}
    (hid : r.contains id = false) (value : Bool) : r.map (Package.flagged id value) = r := by
  rw [h.contains, List.any_eq_false] at hid
  have habsent : ∀ p ∈ r.packages, p.id ≠ id := fun p hp => by simpa using hid p hp
  rw [Registry.map, Package.map_flagged_of_absent habsent]

/-! ## Views -/

theorem perm_views (r : Registry) : (r.installed ++ r.recommended).Perm r.packages :=
  List.filter_append_perm _ _

theorem length_views (r : Registry) :
    r.installed.length + r.recommended.length = r.packages.length := by
  rw [← List.length_append, r.perm_views.length_eq]

end Registry

end ExtensionCatalogue
