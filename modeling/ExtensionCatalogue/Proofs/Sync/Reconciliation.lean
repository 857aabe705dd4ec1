import ExtensionCatalogue.Proofs.Sync.Record

/-!
# Flags are reconciled

The registry of a run is told by its record: it holds the first packages of the response applied
last, each with the flag of the last operation that has succeeded since that search was fired, or
else with the flag of the response.

The outcomes that the controller remembers serve the search underway. `State.recent?` is what it
would put back for that search, and while the search is underway this is what the record tells.
-/

namespace ExtensionCatalogue.Sync

namespace State

/-- The flag that a response to the latest search would not override. -/
def recent? (s : State) (id : String) : Option Bool :=
  match s.confirmed.get? id with
  | some o => if s.generation ≤ o.generation then some o.installed else none
  | none => none

theorem reconcile_latest (s : State) (p : Package) :
    s.reconcile s.generation p = p.withFlag (s.recent? p.id) := by
  unfold reconcile recent?
  cases s.confirmed.get? p.id with
  | none => rfl
  | some o =>
    simp only
    split <;> rfl

@[simp] theorem reconcile_id (s : State) (generation : Nat) (p : Package) :
    (s.reconcile generation p).id = p.id := by
  unfold reconcile
  split
  · split <;> rfl
  · rfl

theorem packages_replaced (s : State) (packages : List Package) :
    (s.replaced packages).registry.packages =
      (firsts packages).map fun p => p.withFlag (s.recent? p.id) := by
  have hf := firsts_map (s.reconcile_id s.generation) packages
  simp only [replaced, refilled, Registry.packages_ofPackages, hf]
  exact List.map_congr_left fun p _ => s.reconcile_latest p

/-- Nothing is remembered for a search that has just been fired. -/
theorem Dated.recent?_eq_none {s t : State} (h : s.Dated) (hc : t.confirmed = s.confirmed)
    (hg : s.generation < t.generation) (id : String) : t.recent? id = none := by
  unfold recent?
  rw [hc]
  split
  · rename_i o ho
    have hle := h.le ho
    exact if_neg (by omega)
  · rfl

theorem recent?_succeeded (s : State) (operation : Operation) (id other : String) :
    (s.succeeded operation id).recent? other =
      if id = other then some operation.target else s.recent? other := by
  unfold recent? succeeded
  rw [Table.get?_insert]
  by_cases h : other = id
  · simp [h]
  · simp [h, Ne.symm h]

/-- A turn that neither fires a search nor applies its response changes what is remembered for the
latest search by its success alone. -/
theorem Rule.recent? {debounce : Nat} {s t : State} {i : Input} {es : List Effect}
    (h : s.Rule debounce i t es) (hg : t.generation = s.generation)
    (hi : ∀ keyword result, i ≠ .completion (.search s.generation keyword result)) (id : String) :
    t.recent? id = (i.success? id).or (s.recent? id) := by
  cases h with
  | found keyword packages => exact absurd rfl (hi keyword _)
  | unreadable keyword cause => exact absurd rfl (hi keyword _)
  | fire w hw => simp at hg
  | done operation id' name =>
    rw [recent?_succeeded, Input.success?]
    by_cases he : id' = id
    · simp [he]
    · simp [he]
  | _ => rfl

end State

/-! ## The registry of a record -/

/-- The registry is what the record tells. -/
def Told (r : Registry) (record : List Turn) : Prop :=
  match applied? record with
  | none => r = .empty
  | some (g, ps) =>
    r.packages = (firsts ps).map fun p => p.withFlag (outcome? g p.id record)

/-- A turn that applies no result sets the flag of its success. -/
theorem Told.cons {r : Registry} {t : Turn} {past : List Turn} (h : Told r past)
    (ha : applied? (t :: past) = applied? past)
    (hf : ∀ g ps, applied? past = some (g, ps) → g ∉ t.fired) :
    Told (r.map fun p => p.withFlag (t.success? p.id)) (t :: past) := by
  unfold Told at h ⊢
  rw [ha]
  cases hp : applied? past with
  | none =>
    rw [hp] at h
    subst h
    rfl
  | some a =>
    obtain ⟨g, ps⟩ := a
    rw [hp] at h
    simp only [Registry.map, h, List.map_map, outcome?_cons (hf g ps hp)]
    refine List.map_congr_left fun p _ => ?_
    exact p.withFlag_withFlag _ _

/-- A turn that neither applies a result nor ends an operation well leaves the registry. -/
theorem Told.quiet {r : Registry} {t : Turn} {past : List Turn} (h : Told r past)
    (ha : applied? (t :: past) = applied? past)
    (hf : ∀ g ps, applied? past = some (g, ps) → g ∉ t.fired)
    (hs : ∀ id, t.success? id = none) : Told r (t :: past) := by
  have hc := h.cons ha hf
  simpa only [hs, Package.withFlag_none, Registry.map, List.map_id'] using hc

/-- What is remembered for the latest search, while it is underway, and which searches have been
applied. -/
structure World.Reconciled (w : World) : Prop where
  counted : w.Counted
  recent : w.state.generation ∈ generations w.underway →
    ∀ id, w.state.recent? id = outcome? w.state.generation id w.record
  applied : ∀ g ps, applied? w.record = some (g, ps) → g ≤ w.state.generation
  told : Told w.state.registry w.record

namespace State

variable {debounce : Nat} {s t : State} {i : Input} {es : List Effect} {record : List Turn}

theorem Rule.told (hr : s.Rule debounce i t es) (hs : s.registry.Sound)
    (hcount : (fired record).length = s.generation)
    (happlied : ∀ g ps, applied? record = some (g, ps) → g ≤ s.generation)
    (hrecent : ∀ keyword result, i = .completion (.search s.generation keyword result) →
      ∀ id, s.recent? id = outcome? s.generation id record)
    (h : Told s.registry record) : Told t.registry (⟨some i, es⟩ :: record) := by
  have hno : ∀ {g : Nat}, calls es = [] → g ∉ Turn.fired ⟨some i, es⟩ := fun hc => by
    rw [Turn.fired_of_calls hc]
    exact List.not_mem_nil
  cases hr with
  | found keyword packages =>
    rw [Told, applied?_of_packages rfl hcount.symm]
    simp only [packages_replaced]
    refine List.map_congr_left fun p _ => ?_
    rw [outcome?_cons (hno (by simp)), hrecent keyword _ rfl]
    rfl
  | unreadable keyword cause =>
    rw [Told, applied?_of_unreadable rfl hcount.symm]
    rfl
  | done operation id name =>
    have hc := h.cons (applied?_of_no_reply rfl record) fun g ps _ => hno (by simp)
    rw [registry_succeeded hs, funext (Package.flagged_eq id operation.target)]
    exact hc
  | searchFailed keyword failure hf =>
    exact h.quiet (applied?_of_failure rfl hf record) (fun _ _ _ => hno rfl) fun _ => rfl
  | failed operation id name failure =>
    exact h.quiet (applied?_of_no_reply rfl record) (fun _ _ _ => hno (by simp)) fun _ => rfl
  | fire w hw =>
    refine h.quiet (applied?_of_no_reply rfl record) (fun g ps ha hg => ?_) fun _ => rfl
    obtain rfl : g = s.generation + 1 := by simpa [Turn.fired, generations, Call.generation?] using hg
    have hle := happlied _ ps ha
    omega
  | start operation id now p hp =>
    exact h.quiet (applied?_of_no_reply rfl record) (fun _ _ _ => List.not_mem_nil) fun _ => rfl
  | stale generation keyword result hg =>
    have hstale : generation ≠ (fired record).length := hcount ▸ hg
    exact h.quiet (applied?_of_stale rfl hstale) (fun _ _ _ => hno rfl) fun _ => rfl
  | _ => exact h.quiet rfl (fun _ _ _ => hno rfl) fun _ => rfl

theorem Rule.applied (hr : s.Rule debounce i t es) (hcount : (fired record).length = s.generation)
    {g : Nat} {ps : List Package} (ha : applied? (⟨some i, es⟩ :: record) = some (g, ps)) :
    g = s.generation ∨ applied? record = some (g, ps) := by
  cases hr with
  | found keyword packages =>
    rw [applied?_of_packages rfl hcount.symm] at ha
    cases ha
    exact .inl rfl
  | unreadable keyword cause =>
    rw [applied?_of_unreadable rfl hcount.symm] at ha
    cases ha
  | stale generation keyword result hg =>
    have hstale : generation ≠ (fired record).length := hcount ▸ hg
    rw [applied?_of_stale rfl hstale] at ha
    exact .inr ha
  | searchFailed keyword failure hf =>
    rw [applied?_of_failure rfl hf] at ha
    exact .inr ha
  | _ =>
    rw [applied?_of_no_reply rfl] at ha
    exact .inr ha

end State

namespace World

variable {debounce : Nat} {w : World} {m : Move} {s : State} {es : List Effect}

theorem reconciled_start (load : Bool) : (start load).Reconciled where
  counted := counted_start load
  recent _ id := by cases load <;> rfl
  applied g ps ha := by cases load <;> cases ha
  told := by cases load <;> rfl

theorem Reconciled.turned (h : w.Reconciled) (hw : w.Coherent) (hm : w.Possible m)
    (hr : w.state.Rule debounce m.input s es) : (w.turned m s es).Reconciled where
  counted := h.counted.turned hr
  recent := by
    intro hg id
    show s.recent? id = outcome? s.generation id (⟨some m.input, es⟩ :: w.record)
    rcases hw.latest_underway hm hr hg with ⟨hs, hconf, hf⟩ | ⟨hs, hc, hold, hi⟩
    · rw [outcome?_of_fired hf, hw.dated.recent?_eq_none hconf (by omega)]
    · have hno : s.generation ∉ Turn.fired ⟨some m.input, es⟩ := by
        rw [Turn.fired, hc]
        exact List.not_mem_nil
      rw [hr.recent? hs hi, outcome?_cons hno, hs, h.recent hold]
      rfl
  applied g ps ha := by
    show g ≤ s.generation
    have hle : w.state.generation ≤ s.generation := by
      rcases hr.fires with ⟨-, hs⟩ | ⟨-, hs, -⟩ <;> omega
    rcases hr.applied h.counted.length_fired ha with rfl | ha
    · exact hle
    · exact Nat.le_trans (h.applied g ps ha) hle
  told := by
    refine hr.told hw.sound h.counted.length_fired h.applied (fun keyword result e => ?_) h.told
    exact h.recent (hw.answered hm e).1

theorem reconciled_after (debounce : Nat) (load : Bool) (ms : List Move) :
    (after debounce load ms).Reconciled :=
  coherent_keeps reconciled_start (fun _ _ _ _ hw h hm hr => h.turned hw hm hr) load ms

/-- **The registry is what the record tells.** Until a response has been applied, or after an
unreadable one, the registry is empty. Otherwise it holds the first package of each id of the
response applied last, in order and as in the response but for the flag, which is that of the last
operation on the package that has succeeded since the search was fired, if there is one. -/
theorem registry_of_record (debounce : Nat) (load : Bool) (ms : List Move) :
    let w := after debounce load ms
    match applied? w.record with
    | none => w.state.registry = .empty
    | some (g, ps) =>
      w.state.registry.packages =
        (firsts ps).map fun p => p.withFlag (outcome? g p.id w.record) :=
  (reconciled_after debounce load ms).told

end World

end ExtensionCatalogue.Sync
