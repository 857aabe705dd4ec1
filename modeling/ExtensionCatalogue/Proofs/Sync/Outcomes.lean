import ExtensionCatalogue.Proofs.Sync.Reconciliation

/-!
# What is remembered

The outcomes of operations are read only where the reply to the latest search is put into the
registry. So two states that are the same but for their outcomes do the same, as long as no such
reply comes, or the outcomes are the same to that search.
-/

namespace ExtensionCatalogue.Sync.State

/-- The state without the outcomes it remembers. -/
def bare (s : State) : State := { s with confirmed := .empty }

/-- The same but for the outcomes remembered. -/
def Like (x y : State × List Effect) : Prop := x.1.bare = y.1.bare ∧ x.2 = y.2

variable {s t : State} {i : Input}

theorem bare_eq_iff :
    s.bare = t.bare ↔ s.registry = t.registry ∧ s.pending = t.pending ∧
      s.generation = t.generation ∧ s.waiting = t.waiting := by
  simp [bare]

theorem eq_of_bare (h : s.bare = t.bare) : t = { s with confirmed := t.confirmed } := by
  obtain ⟨hr, hp, hg, hw⟩ := bare_eq_iff.1 h
  rw [hr, hp, hg, hw]

theorem refilled_eq (s : State) (packages : List Package) :
    s.refilled packages =
      Registry.ofPackages (packages.map fun p => p.withFlag (s.recent? p.id)) := by
  rw [refilled, List.map_congr_left fun p _ => s.reconcile_latest p]

/-! ## Functions of the controller -/

section
variable (s : State) (c : Table Outcome)

theorem begin_like (operation : Operation) (id : String) :
    Like ({ s with confirmed := c }.begin operation id) (s.begin operation id) := by
  unfold begin
  cases s.pending.get? id with
  | some running => exact ⟨rfl, rfl⟩
  | none =>
    cases s.registry.get? id with
    | none => exact ⟨rfl, rfl⟩
    | some p =>
      simp only
      split <;> exact ⟨rfl, rfl⟩

theorem finish_like (operation : Operation) (id name : String) (result : Except Failure Unit) :
    Like ({ s with confirmed := c }.finish operation id name result)
      (s.finish operation id name result) := by
  unfold finish
  cases result with
  | error failure => exact ⟨rfl, rfl⟩
  | ok u => cases s.registry.setInstalled? id operation.target <;> exact ⟨rfl, rfl⟩

theorem progress_like (id : String) (percent : Nat) :
    Like ({ s with confirmed := c }.handleCompletion (.progress id percent))
      (s.handleCompletion (.progress id percent)) := by
  simp only [handleCompletion]
  cases s.pending.advance? id percent <;> exact ⟨rfl, rfl⟩

theorem expire_like : Like { s with confirmed := c }.expire s.expire := by
  obtain ⟨registry, pending, confirmed, generation, waiting⟩ := s
  cases waiting <;> exact ⟨rfl, rfl⟩

/-- The reply to the latest search reads what is remembered for it. -/
theorem applySearch_like {g : Nat}
    (h : g = s.generation → ∀ id, { s with confirmed := c }.recent? id = s.recent? id)
    (keyword : String) (result : Except Failure (List Package)) :
    Like ({ s with confirmed := c }.applySearch g keyword result)
      (s.applySearch g keyword result) := by
  unfold applySearch Like
  by_cases hg : g = s.generation
  · subst hg
    have hfill : ∀ packages, { s with confirmed := c }.refilled packages = s.refilled packages :=
      fun packages => by simp only [refilled_eq, h rfl]
    unfold refilled at hfill
    simp only [ne_eq, not_true_eq_false, ↓reduceIte]
    split
    · simp [replace, hfill, bare]
    · simp [replace, bare]
    · simp [bare]
  · simp [hg, bare]

end

/-- **States that differ in what they remember do the same**, unless it is about to be read. -/
theorem step_like (debounce : Nat) (h : s.bare = t.bare)
    (hr : ∀ keyword result, i = .completion (.search s.generation keyword result) →
      ∀ id, s.recent? id = t.recent? id) :
    Like (t.step debounce i) (s.step debounce i) := by
  have ht := eq_of_bare h
  generalize t.confirmed = c at ht
  subst ht
  cases i with
  | command k now =>
    cases k with
    | search keyword => exact ⟨rfl, rfl⟩
    | operate operation id => exact s.begin_like c operation id
  | completion k =>
    cases k with
    | search g keyword result =>
      refine s.applySearch_like c (fun hg id => ?_) keyword result
      exact (hr keyword result (hg ▸ rfl) id).symm
    | operation operation id name result => exact s.finish_like c operation id name result
    | progress id percent => exact s.progress_like c id percent
  | expiry => exact s.expire_like c

end ExtensionCatalogue.Sync.State
