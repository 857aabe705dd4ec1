import ExtensionCatalogue.Proofs.Registry

/-!
# Registries and rosters

A roster is a plain list of packages that is searched from its front. A registry and a roster that
are changed in the same way answer alike (`answers_as_roster`): each step keeps the registry a
sound one of the packages of the roster (`Lists.change`), and such a registry shows what the roster
shows (`Lists.shows`).
-/

namespace ExtensionCatalogue

/-- A change of a store of packages: new contents, or the flag of one package. -/
inductive Change where
  | fill (ps : List Package)
  | flag (id : String) (value : Bool)
  deriving DecidableEq, Repr

/-- What a change answers: how many packages there are now, or whether the package was there. -/
inductive Change.Answer where
  | retained (n : Nat)
  | present (b : Bool)
  deriving DecidableEq, Repr

/-- The answers to some changes, and the store after them. -/
def Change.run {σ : Type} (change : σ → Change → Change.Answer × σ) (s : σ) :
    List Change → List Change.Answer × σ
  | [] => ([], s)
  | c :: cs =>
    let (answer, s) := change s c
    let (answers, s) := run change s cs
    (answer :: answers, s)

/-- Stores that answer alike and stay alike on each change answer alike on all changes. -/
theorem Change.run_alike {σ τ : Type} {f : σ → Change → Change.Answer × σ}
    {g : τ → Change → Change.Answer × τ} {Alike : σ → τ → Prop}
    (hstep : ∀ s t, Alike s t → ∀ c, (f s c).1 = (g t c).1 ∧ Alike (f s c).2 (g t c).2)
    {s : σ} {t : τ} (h : Alike s t) (cs : List Change) :
    (run f s cs).1 = (run g t cs).1 ∧ Alike (run f s cs).2 (run g t cs).2 := by
  induction cs generalizing s t with
  | nil => exact ⟨rfl, h⟩
  | cons c cs ih =>
    obtain ⟨hanswer, hafter⟩ := hstep s t h c
    obtain ⟨hanswers, hlast⟩ := ih hafter
    exact ⟨congrArg₂ List.cons hanswer hanswers, hlast⟩

/-! ## Rosters -/

namespace Roster

/-- The roster with the flag of the first package of an id set, if there is one. -/
def flag? (id : String) (value : Bool) : List Package → Option (List Package)
  | [] => none
  | p :: ps =>
    if p.id = id then some ({ p with installed := value } :: ps)
    else (flag? id value ps).map (p :: ·)

def change (ps : List Package) : Change → Change.Answer × List Package
  | .fill qs => (.retained (firsts qs).length, firsts qs)
  | .flag id value =>
    match flag? id value ps with
    | some qs => (.present true, qs)
    | none => (.present false, ps)

theorem flag?_eq {id : String} (value : Bool) {ps : List Package} (h : (ps.map (·.id)).Nodup) :
    flag? id value ps =
      if ps.any (·.id = id) then some (ps.map (Package.flagged id value)) else none := by
  induction ps with
  | nil => rfl
  | cons p ps ih =>
    by_cases hp : p.id = id
    · subst hp
      rw [flag?, if_pos rfl, Package.map_flagged_head h]
      simp
    · rw [List.map_cons, List.nodup_cons] at h
      rw [flag?, if_neg hp, ih h.2]
      by_cases hany : ps.any (·.id = id) = true <;> simp [Package.flagged, hp, hany]

end Roster

/-! ## Registries -/

namespace Registry

/-- A registry with a change, and the answer. -/
def change (r : Registry) : Change → Change.Answer × Registry
  | .fill ps => (.retained (ofPackages ps).1.size, (ofPackages ps).1)
  | .flag id value =>
    match r.setInstalled? id value with
    | some r' => (.present true, r')
    | none => (.present false, r)

/-- A sound registry of just these packages. -/
structure Lists (r : Registry) (ps : List Package) : Prop where
  sound : r.Sound
  distinct : r.index.Distinct
  packages : r.packages = ps

theorem distinct_extend {r : Registry} (h : r.index.Distinct) (ps : List Package) :
    (r.extend ps).1.index.Distinct := by
  induction ps generalizing r with
  | nil => exact h
  | cons p ps ih =>
    cases hp : r.contains p.id with
    | true => rw [extend_cons_of_contains hp]; exact ih h
    | false => rw [extend_cons_of_not_contains hp]; exact ih (h.insert p.id _)

theorem Lists.empty : Lists empty [] := ⟨.empty, List.nodup_nil, rfl⟩

theorem Lists.ofPackages (ps : List Package) : (ofPackages ps).1.Lists (firsts ps) :=
  ⟨.ofPackages ps, distinct_extend (r := .empty) List.nodup_nil ps, packages_ofPackages ps⟩

section

variable {r : Registry} {ps : List Package} (h : r.Lists ps)

include h

theorem Lists.map {f : Package → Package} (hf : ∀ p, (f p).id = p.id) :
    (r.map f).Lists (ps.map f) :=
  ⟨h.sound.map hf, h.distinct, congrArg (List.map f) h.packages⟩

theorem Lists.nodup : (ps.map (·.id)).Nodup := h.packages ▸ h.sound.nodup

theorem Lists.change_flag (id : String) (value : Bool) : r.change (.flag id value) =
    (.present (r.contains id), r.map (Package.flagged id value)) := by
  rw [change, h.sound.setInstalled? id value]
  cases hid : r.contains id with
  | true => rfl
  | false => rw [h.sound.map_flagged hid]; rfl

theorem Lists.contains (id : String) : r.contains id = ps.any (·.id = id) := by
  rw [h.sound.contains, h.packages]

/-- The step: a registry and the roster that it lists answer alike and stay alike. -/
theorem Lists.change (c : Change) : (r.change c).1 = (Roster.change ps c).1 ∧
    (r.change c).2.Lists (Roster.change ps c).2 := by
  cases c with
  | fill qs =>
    have hfilled := Lists.ofPackages qs
    exact ⟨congrArg _ (congrArg List.length hfilled.packages), hfilled⟩
  | flag id value =>
    rw [h.change_flag, Roster.change, Roster.flag?_eq value h.nodup, ← h.contains]
    cases hid : r.contains id with
    | true => exact ⟨rfl, h.map (Package.flagged_id id value)⟩
    | false =>
      rw [h.sound.map_flagged hid]
      exact ⟨rfl, h⟩

theorem Lists.perm_keys : r.index.keys.Perm (ps.map (·.id)) := by
  apply (List.perm_ext_iff_of_nodup h.distinct h.nodup).2
  intro id
  have hcontains : r.index.contains id = ps.any (·.id = id) := h.contains id
  rw [Table.mem_keys_iff, hcontains]
  simp

theorem Lists.position {id : String} {i : Nat} (hi : r.index.get? id = some i) :
    ∃ p, ps[i]? = some p ∧ p.id = id ∧ ∀ j q, ps[j]? = some q → q.id = id → j = i := by
  rw [h.sound.index, h.packages] at hi
  obtain ⟨hlt, hid, -⟩ := List.findIdx?_eq_some_iff_getElem.1 hi
  refine ⟨ps[i], List.getElem?_eq_getElem hlt, of_decide_eq_true hid, ?_⟩
  intro j q hq hqid
  have hsame : (ps.map (·.id))[i]? = (ps.map (·.id))[j]? := by
    rw [List.getElem?_map, List.getElem?_map, hq, List.getElem?_eq_getElem hlt]
    exact congrArg some ((of_decide_eq_true hid).trans hqid.symm)
  exact ((List.getElem?_inj (by simpa using hlt) h.nodup).1 hsame).symm

theorem Lists.disjoint_views : ∀ p ∈ r.installed, ∀ q ∈ r.recommended, p.id ≠ q.id := by
  intro p hp q hq hid
  obtain ⟨hp, hinstalled⟩ := List.mem_filter.1 hp
  obtain ⟨hq, hrecommended⟩ := List.mem_filter.1 hq
  obtain rfl := List.inj_on_of_nodup_map h.sound.nodup hp hq hid
  simp [hinstalled] at hrecommended

end

/-- A registry shows what a search through `ps` from its front shows. -/
structure Shows (r : Registry) (ps : List Package) : Prop where
  packages : r.packages = ps
  unique : (ps.map (·.id)).Nodup
  keys : r.index.keys.Perm (ps.map (·.id))
  positions : ∀ id i, r.index.get? id = some i →
    ∃ p, ps[i]? = some p ∧ p.id = id ∧ ∀ j q, ps[j]? = some q → q.id = id → j = i
  get? : ∀ id, r.get? id = ps.find? (·.id = id)
  contains : ∀ id, r.contains id = ps.any (·.id = id)
  size : r.size = ps.length
  flagged : ∀ id value, (r.change (.flag id value)).2 = r.map (Package.flagged id value)
  unflagged : ∀ id value, (r.change (.flag id value)).1 = .present false →
    (r.change (.flag id value)).2 = r
  views : r.views = (r.installed, r.recommended)
  ordered : r.installed.Sublist ps ∧ r.recommended.Sublist ps
  disjoint : ∀ p ∈ r.installed, ∀ q ∈ r.recommended, p.id ≠ q.id
  complete : (r.installed ++ r.recommended).Perm ps

theorem Lists.shows {r : Registry} {ps : List Package} (h : r.Lists ps) : r.Shows ps where
  packages := h.packages
  unique := h.nodup
  keys := h.perm_keys
  positions _ _ hi := h.position hi
  get? id := by rw [h.sound.get?, h.packages]
  contains := h.contains
  size := congrArg List.length h.packages
  flagged id value := by rw [h.change_flag]
  unflagged id value hanswer := by
    rw [h.change_flag] at hanswer ⊢
    exact h.sound.map_flagged (Change.Answer.present.inj hanswer) value
  views := r.views_eq
  ordered := h.packages ▸ ⟨List.filter_sublist, List.filter_sublist⟩
  disjoint := h.disjoint_views
  complete := h.packages ▸ r.perm_views

/-- **A registry is a roster with an index**: after any changes it has given the same answers, and
it shows what the roster shows. -/
theorem answers_as_roster (cs : List Change) :
    (Change.run change empty cs).1 = (Change.run Roster.change [] cs).1 ∧
      (Change.run change empty cs).2.Shows (Change.run Roster.change [] cs).2 := by
  obtain ⟨hanswers, hlists⟩ :=
    Change.run_alike (fun _ _ h c => h.change c) Lists.empty cs
  exact ⟨hanswers, hlists.shows⟩

end Registry

end ExtensionCatalogue
