import ExtensionCatalogue.Proofs.Catalog.Search
import ExtensionCatalogue.Proofs.Registry

/-!
# Packages with the same id

A catalogue keeps the ids that it has met in a list, a registry has them in its index. Both keep
the first package of each id (`firsts`) and give a notice for each other one (`repeats`), so a
catalogue and a registry of the same packages hold the same ones (`deduplicated`), and nothing is
left out of a registry that is filled from a search in a catalogue.
-/

namespace ExtensionCatalogue

/-! ## First packages and the others -/

theorem ids_firsts_nodup (ps : List Package) : ((firsts ps).map (·.id)).Nodup := by
  have hsound := Registry.Sound.ofPackages ps
  rw [← Registry.packages_ofPackages]
  exact hsound.nodup

theorem perm_firsts (ps : List Package) : (firsts ps ++ repeats (fun _ => false) ps).Perm ps :=
  fresh_of_none ps ▸ perm_repeats (fun _ => false) ps

/-- Where no id stands twice, no package repeats one. -/
theorem repeats_of_nodup {ps : List Package} (h : (ps.map (·.id)).Nodup) :
    repeats (fun _ => false) ps = [] := by
  have hlength := (perm_firsts ps).length_eq
  rw [firsts_of_nodup h, List.length_append] at hlength
  exact List.length_eq_zero_iff.1 (by omega)

theorem count_ids_firsts {ps : List Package} {p : Package} (hp : p ∈ ps) :
    ((firsts ps).map (·.id)).count p.id = 1 := by
  apply List.count_eq_one_of_mem (ids_firsts_nodup ps)
  rw [ids_firsts, List.mem_eraseDups]
  exact List.mem_map_of_mem hp

/-! ## Catalogues -/

namespace Catalog

theorem keepFirst_eq (seen : List String) (ps : List Package) : keepFirst seen ps =
    (fresh (fun id => decide (id ∈ seen)) ps,
      (repeats (fun id => decide (id ∈ seen)) ps).map fun p => .duplicateEntry p.id) := by
  induction ps generalizing seen with
  | nil => rfl
  | cons p ps ih =>
    by_cases hp : p.id ∈ seen
    · have hknown : decide (p.id ∈ seen) = true := decide_eq_true hp
      rw [keepFirst, if_pos hp, ih, fresh_cons_of_known (by exact hknown), repeats, if_pos hknown]
      rfl
    · have hknown : decide (p.id ∈ seen) = false := decide_eq_false hp
      have hnext : (fun id => decide (id = p.id) || decide (id ∈ seen)) =
          fun id => decide (id ∈ p.id :: seen) := by
        funext id
        simp
      rw [keepFirst, if_neg hp, ih, fresh_cons_of_unknown (by exact hknown), repeats, hknown,
        if_neg Bool.false_ne_true, hnext]

theorem ofPackages_eq (ps : List Package) : ofPackages ps =
    (⟨firsts ps⟩, (repeats (fun _ => false) ps).map fun p => .duplicateEntry p.id) := by
  have hnone : (fun id : String => decide (id ∈ ([] : List String))) = fun _ => false := by
    funext id
    simp
  rw [ofPackages, keepFirst_eq, hnone, fresh_of_none]

theorem packages_ofPackages (ps : List Package) : (ofPackages ps).1.packages = firsts ps := by
  rw [ofPackages_eq]

theorem notices_ofPackages (ps : List Package) :
    (ofPackages ps).2 = (repeats (fun _ => false) ps).map fun p => .duplicateEntry p.id := by
  rw [ofPackages_eq]

/-- A catalogue leaves nothing out where no id stands twice. -/
theorem ofPackages_of_nodup {ps : List Package} (h : (ps.map (·.id)).Nodup) :
    ofPackages ps = (⟨ps⟩, []) := by
  rw [ofPackages_eq, firsts_of_nodup h, repeats_of_nodup h, List.map_nil]

theorem find?_ofPackages (ps : List Package) (id : String) :
    (ofPackages ps).1.find? id = ps.find? (·.id = id) := by
  rw [← find?_firsts, find?, packages_ofPackages]
  rfl

theorem ids_search_nodup (ps : List Package) (keyword : String) :
    (((ofPackages ps).1.search keyword).map (·.id)).Nodup := by
  have hids := ids_firsts_nodup ps
  rw [← packages_ofPackages] at hids
  exact hids.sublist (List.filter_sublist.map _)

end Catalog

/-! ## Registries -/

namespace Registry

theorem notices_ofPackages (ps : List Package) :
    (ofPackages ps).2 = (repeats (fun _ => false) ps).map fun p => .duplicateResult p.id :=
  notices_extend empty ps

theorem notices_of_nodup {ps : List Package} (h : (ps.map (·.id)).Nodup) :
    (ofPackages ps).2 = [] := by
  rw [notices_ofPackages, repeats_of_nodup h, List.map_nil]

/-- A registry that is filled with its own packages stays as it is. -/
theorem ofPackages_firsts (ps : List Package) :
    ofPackages (firsts ps) = ((ofPackages ps).1, []) := by
  apply Prod.ext
  · exact fresh_of_none ps ▸ extend_fresh empty ps
  · exact notices_of_nodup (ids_firsts_nodup ps)

end Registry

/-! ## Both -/

/-- A catalogue and a registry, each with its notices, hold the first package of each id of `ps`,
with one notice for each package left out; and nothing is left out of what they hold. -/
structure Deduplicated (ps : List Package) (c : Catalog × List Notice)
    (r : Registry × List Notice) : Prop where
  alike : c.1.packages = r.1.packages
  sublist : c.1.packages.Sublist ps
  once : ∀ p ∈ ps, (c.1.packages.map (·.id)).count p.id = 1
  first : ∀ id, c.1.find? id = ps.find? (·.id = id)
  found : ∀ id, r.1.get? id = c.1.find? id
  absent : ∀ id, c.1.find? id = none ↔ ∀ p ∈ ps, p.id ≠ id
  noticed : ∃ leftOut : List Package, leftOut.Sublist ps ∧ (c.1.packages ++ leftOut).Perm ps ∧
    c.2 = leftOut.map (fun p => .duplicateEntry p.id) ∧
    r.2 = leftOut.map fun p => .duplicateResult p.id
  catalogAgain : Catalog.ofPackages c.1.packages = (c.1, [])
  registryAgain : Registry.ofPackages r.1.packages = (r.1, [])
  searched : ∀ keyword, (Registry.ofPackages (c.1.search keyword)).1.packages = c.1.search keyword ∧
    (Registry.ofPackages (c.1.search keyword)).2 = []
  searchedAll : ∀ keyword : String, (∀ ch ∈ keyword.toList, Text.isBlank ch = true) →
    Registry.ofPackages (c.1.search keyword) = (r.1, [])

/-- **A catalogue and a registry of the same packages hold the same ones**, the first of each id. -/
theorem deduplicated (ps : List Package) :
    Deduplicated ps (Catalog.ofPackages ps) (Registry.ofPackages ps) where
  alike := by rw [Catalog.packages_ofPackages, Registry.packages_ofPackages]
  sublist := by
    rw [Catalog.packages_ofPackages]
    exact firsts_sublist ps
  once p hp := by
    rw [Catalog.packages_ofPackages]
    exact count_ids_firsts hp
  first := Catalog.find?_ofPackages ps
  found id := by
    rw [(Registry.Sound.ofPackages ps).get?, Registry.packages_ofPackages, find?_firsts,
      Catalog.find?_ofPackages]
  absent id := by
    rw [Catalog.find?_ofPackages, List.find?_eq_none]
    simp only [decide_eq_true_eq]
  noticed := by
    refine ⟨repeats (fun _ => false) ps, repeats_sublist _ ps, ?_, Catalog.notices_ofPackages ps,
      Registry.notices_ofPackages ps⟩
    rw [Catalog.packages_ofPackages]
    exact perm_firsts ps
  catalogAgain := by
    rw [Catalog.packages_ofPackages, Catalog.ofPackages_of_nodup (ids_firsts_nodup ps),
      Catalog.ofPackages_eq]
  registryAgain := by rw [Registry.packages_ofPackages, Registry.ofPackages_firsts]
  searched keyword := by
    have hids := Catalog.ids_search_nodup ps keyword
    rw [Registry.packages_ofPackages, firsts_of_nodup hids, Registry.notices_of_nodup hids]
    exact ⟨rfl, rfl⟩
  searchedAll keyword hblank := by
    rw [Catalog.search_of_blank _ hblank, Catalog.packages_ofPackages, Registry.ofPackages_firsts]

end ExtensionCatalogue
