import ExtensionCatalogue.Proofs.Sync.Reconciliation

/-!
# Packages do not interfere

What concerns one package is a slice of the controller: the operation pending on it, its entry in
the registry and the outcome remembered, with the generation and the wait, which concern every
package. An input about another package leaves the slice alone and shows nothing of the package. An
input that concerns the package does the same to equal slices. So two runs with the same moves that
concern the package do the same for it, whatever happens to the other packages in between.
-/

namespace ExtensionCatalogue.Sync

/-! ## What concerns a package -/

/-- Whether an input is about the package, or about searches, which concern every package. -/
def Input.concerns (id : String) : Input → Bool
  | .command (.operate _ i) _ => i = id
  | .completion (.progress i _) => i = id
  | .completion (.operation _ i _ _) => i = id
  | _ => true

def Move.concerns (id : String) (m : Move) : Bool := m.input.concerns id

/-- Whether a call is on the package, or a search. -/
def Call.concerns (id : String) : Call → Bool
  | .operation _ p => p.id = id
  | .search _ _ => true

/-- Whether an effect is a call that concerns the package, or progress of its install. -/
def Effect.concerns (id : String) : Effect → Bool
  | .call c => c.concerns id
  | .event (.progress i _) => i = id
  | _ => false

/-- What the controller has on a package, and on searches. -/
structure Slice where
  pending : Option InFlight
  package : Option Package
  outcome : Option Outcome
  generation : Nat
  waiting : Option Waiting

def State.slice (id : String) (s : State) : Slice :=
  ⟨s.pending.get? id, s.registry.get? id, s.confirmed.get? id, s.generation, s.waiting⟩

/-- The effects that concern a package. -/
def about (id : String) (es : List Effect) : List Effect := es.filter (·.concerns id)

section
variable (id : String) (es fs : List Effect)

@[simp] theorem about_nil : about id [] = [] := rfl

@[simp] theorem about_append : about id (es ++ fs) = about id es ++ about id fs :=
  List.filter_append ..

@[simp] theorem about_notice (n : Notice) : about id (.notice n :: es) = about id es := rfl

@[simp] theorem about_status (line : Status) : about id (.event (.status line) :: es) = about id es :=
  rfl

@[simp] theorem about_published (r : Registry) :
    about id (State.published r :: es) = about id es := rfl

@[simp] theorem about_notices (ns : List Notice) : about id (ns.map .notice) = [] := by
  induction ns with
  | nil => rfl
  | cons n ns ih => exact ih

@[simp] theorem about_warning (s : State) (operation : Operation) (i : String) :
    about id (s.warning operation i) = [] := by
  unfold State.warning; split <;> rfl

@[simp] theorem about_change (s : State) (operation : Operation) (i : String) :
    about id (s.change operation i :: es) = about id es := by
  unfold State.change; split <;> rfl

/-- The calls that concern a package are among the effects that do. -/
theorem calls_about : calls (about id es) = (calls es).filter (·.concerns id) := by
  induction es with
  | nil => rfl
  | cons e es ih =>
    cases e with
    | call c =>
      cases hc : c.concerns id with
      | true =>
        have habout : about id (.call c :: es) = .call c :: about id es :=
          List.filter_cons_of_pos hc
        rw [habout, calls_call, calls_call, ih, List.filter_cons_of_pos hc]
      | false =>
        have habout : about id (.call c :: es) = about id es :=
          List.filter_cons_of_neg (by simp [Effect.concerns, hc])
        rw [habout, calls_call, ih, List.filter_cons_of_neg (by simp [hc])]
    | event e =>
      cases e with
      | progress i percent =>
        rw [about, List.filter_cons]
        split <;> exact ih
      | _ => exact ih
    | notice n => exact ih

end

namespace State

variable {debounce : Nat} {s t : State} {i : Input} {es : List Effect} {id : String}

/-! ## Inputs about other packages -/

/-- An input about another package leaves the slice and shows nothing of the package. -/
theorem Rule.aside (h : s.Rule debounce i t es) (hs : s.registry.Sound)
    (hi : i.concerns id = false) : t.slice id = s.slice id ∧ about id es = [] := by
  cases h with
  | start operation other now p hp =>
    have hne : other ≠ id := by simpa [Input.concerns] using hi
    have hpid : p.id = other := (hs.get?_eq_some_iff.1 hp.2.1).2
    refine ⟨by simp [slice, hne.symm], ?_⟩
    simp [about, Effect.concerns, Call.concerns, hpid, hne]
  | ignore operation other now hn => exact ⟨rfl, rfl⟩
  | advance other progress percent hp hle =>
    have hne : other ≠ id := by simpa [Input.concerns] using hi
    exact ⟨by simp [slice, hne.symm], by simp [about, Effect.concerns, hne]⟩
  | disregard other percent hp => exact ⟨rfl, rfl⟩
  | done operation other name =>
    have hne : other ≠ id := by simpa [Input.concerns] using hi
    have hreg : (s.succeeded operation other).registry.get? id = s.registry.get? id := by
      rw [registry_succeeded hs, hs.get?_map_congr (g := fun p => p), Registry.map_id]
      exact fun p hp => if_neg (hp ▸ hne.symm)
    refine ⟨?_, by simp⟩
    simp only [slice, hreg]
    simp [succeeded, hne.symm]
  | failed operation other name failure =>
    have hne : other ≠ id := by simpa [Input.concerns] using hi
    exact ⟨by simp [slice, hne.symm], by simp⟩
  | _ => simp [Input.concerns] at hi

/-! ## Inputs that concern the package -/

theorem slice_eq_iff : s.slice id = t.slice id ↔
    s.pending.get? id = t.pending.get? id ∧ s.registry.get? id = t.registry.get? id ∧
      s.confirmed.get? id = t.confirmed.get? id ∧ s.generation = t.generation ∧
        s.waiting = t.waiting := by
  simp [slice]

/-- The same for the package. -/
def Same (id : String) (x y : State × List Effect) : Prop :=
  x.1.slice id = y.1.slice id ∧ about id x.2 = about id y.2

theorem begin_same (h : s.slice id = t.slice id) (operation : Operation) :
    Same id (s.begin operation id) (t.begin operation id) := by
  obtain ⟨hp, hr, hc, hg, hw⟩ := slice_eq_iff.1 h
  unfold begin
  rw [hp, hr]
  cases hrun : t.pending.get? id with
  | some running => exact ⟨h, rfl⟩
  | none =>
    cases t.registry.get? id with
    | none => exact ⟨h, rfl⟩
    | some p =>
      simp only
      split
      · exact ⟨h, rfl⟩
      · rw [Pending.begin?_of_free (hp.trans hrun), Pending.begin?_of_free hrun]
        exact ⟨by simp [slice, hr, hc, hg, hw], rfl⟩

theorem progress_same (h : s.slice id = t.slice id) (percent : Nat) :
    Same id (s.handleCompletion (.progress id percent))
      (t.handleCompletion (.progress id percent)) := by
  obtain ⟨hp, hr, hc, hg, hw⟩ := slice_eq_iff.1 h
  simp only [handleCompletion]
  by_cases hrun : ∃ progress ≤ percent, t.pending.get? id = some ⟨.install, progress⟩
  · obtain ⟨progress, hle, hrun⟩ := hrun
    rw [Pending.advance?_of_le (hp.trans hrun) hle, Pending.advance?_of_le hrun hle]
    exact ⟨by simp [slice, hr, hc, hg, hw], rfl⟩
  · have hnot : ∀ progress ≤ percent, t.pending.get? id ≠ some ⟨.install, progress⟩ :=
      fun progress hle e => hrun ⟨progress, hle, e⟩
    rw [Pending.advance?_eq_none (hp ▸ hnot), Pending.advance?_eq_none hnot]
    exact ⟨h, rfl⟩

theorem expire_same (h : s.slice id = t.slice id) : Same id s.expire t.expire := by
  obtain ⟨hp, hr, hc, hg, hw⟩ := slice_eq_iff.1 h
  unfold expire
  rw [hw]
  cases t.waiting with
  | none => exact ⟨h, rfl⟩
  | some w => exact ⟨by simp [fire, slice, hp, hr, hc, hg], by simp [fire, hg]⟩

theorem Rule.operation_same {s' t' : State} {es fs : List Effect} {operation : Operation}
    {name : String} {result : Except Failure Unit} (h : s.slice id = t.slice id)
    (hs : s.registry.Sound) (ht : t.registry.Sound)
    (rs : s.Rule debounce (.completion (.operation operation id name result)) s' es)
    (rt : t.Rule debounce (.completion (.operation operation id name result)) t' fs) :
    s'.slice id = t'.slice id ∧ about id es = about id fs := by
  obtain ⟨hp, hr, hc, hg, hw⟩ := slice_eq_iff.1 h
  cases rs with
  | done operation id name =>
    cases rt with
    | done operation id name =>
      have hreg : (s.succeeded operation id).registry.get? id =
          (t.succeeded operation id).registry.get? id := by
        rw [registry_succeeded hs, registry_succeeded ht, Registry.get?_map, Registry.get?_map, hr]
      refine ⟨?_, by simp⟩
      simp only [slice, hreg]
      simp [succeeded, hg, hw]
  | failed operation id name failure =>
    cases rt with
    | failed operation id name failure => exact ⟨by simp [slice, hr, hc, hg, hw], by simp⟩

/-- A registry filled with the response to a search has the same entry for the package, if the
same outcome is remembered for it. -/
theorem get?_reconcile (hc : s.confirmed.get? id = t.confirmed.get? id) (generation : Nat)
    (packages : List Package) :
    (Registry.ofPackages (packages.map (s.reconcile generation))).1.get? id =
      (Registry.ofPackages (packages.map (t.reconcile generation))).1.get? id := by
  rw [Registry.ofPackages_map (s.reconcile_id generation),
    Registry.ofPackages_map (t.reconcile_id generation)]
  refine (Registry.Sound.ofPackages packages).get?_map_congr fun p hp => ?_
  subst hp
  simp only [reconcile, hc]

theorem applySearch_same (h : s.slice id = t.slice id) (hs : s.confirmed.Distinct)
    (ht : t.confirmed.Distinct) (generation : Nat) (keyword : String)
    (result : Except Failure (List Package)) :
    Same id (s.applySearch generation keyword result) (t.applySearch generation keyword result) := by
  obtain ⟨hp, hr, hc, hg, hw⟩ := slice_eq_iff.1 h
  have hreplace : ∀ packages,
      Same id (s.replace generation packages) (t.replace generation packages) := fun packages =>
    ⟨by simp [replace, slice, hs.get?_filter, ht.get?_filter, get?_reconcile hc, hp, hc, hg, hw],
      by simp [replace]⟩
  unfold applySearch
  rw [hg]
  split
  · exact ⟨h, rfl⟩
  · split
    · exact ⟨(hreplace _).1, by simp [(hreplace _).2]⟩
    · exact ⟨(hreplace []).1, by simp [(hreplace []).2]⟩
    · exact ⟨h, rfl⟩

/-- **An input that concerns the package does the same to equal slices.** -/
theorem step_same (debounce : Nat) (h : s.slice id = t.slice id) (hs : s.registry.Sound)
    (ht : t.registry.Sound) (hsc : s.confirmed.Distinct) (htc : t.confirmed.Distinct)
    (hi : i.concerns id = true) : Same id (s.step debounce i) (t.step debounce i) := by
  cases i with
  | command c now =>
    cases c with
    | search keyword =>
      obtain ⟨hp, hr, hc, hg, hw⟩ := slice_eq_iff.1 h
      exact ⟨by simp [step, handleCommand, slice, hp, hr, hc, hg], rfl⟩
    | operate operation other =>
      obtain rfl : other = id := by simpa [Input.concerns] using hi
      exact begin_same h operation
  | completion c =>
    cases c with
    | search generation keyword result => exact applySearch_same h hsc htc generation keyword result
    | progress other percent =>
      obtain rfl : other = id := by simpa [Input.concerns] using hi
      exact progress_same h percent
    | operation operation other name result =>
      obtain rfl : other = id := by simpa [Input.concerns] using hi
      exact Rule.operation_same h hs ht (rule_step debounce s _) (rule_step debounce t _)
  | expiry => exact expire_same h

end State

/-! ## Runs -/

/-- A call concerns the packages that its answer does. -/
theorem Answer.concerns_call (a : Answer) (id : String) :
    a.call.concerns id = a.input.concerns id := by
  cases a <;> rfl

namespace World

/-- The worlds agree on the package: on the slice, on the calls underway that concern it, and on
what has been done about it. -/
structure AgreeOn (id : String) (w v : World) : Prop where
  slice : w.state.slice id = v.state.slice id
  underway : w.underway.filter (·.concerns id) = v.underway.filter (·.concerns id)
  effects : about id w.effects = about id v.effects

/-- What every run keeps, and that each package has one outcome remembered at most. -/
structure Tidy (w : World) : Prop extends Coherent w where
  distinct : w.state.confirmed.Distinct

variable {debounce : Nat} {w v u : World} {m : Move} {id : String}

theorem tidy_start (load : Bool) : (start load).Tidy :=
  ⟨coherent_start load, by cases load <;> exact List.nodup_nil⟩

theorem Tidy.move (h : w.Tidy) (debounce : Nat) (m : Move) : (w.move debounce m).Tidy :=
  move_keeps h fun _ _ hm hr => ⟨h.turned hm hr, hr.distinct h.distinct⟩

theorem AgreeOn.refl (id : String) (w : World) : w.AgreeOn id w := ⟨rfl, rfl, rfl⟩

theorem AgreeOn.symm (h : w.AgreeOn id v) : v.AgreeOn id w :=
  ⟨h.slice.symm, h.underway.symm, h.effects.symm⟩

theorem AgreeOn.trans (h : w.AgreeOn id v) (k : v.AgreeOn id u) : w.AgreeOn id u :=
  ⟨h.slice.trans k.slice, h.underway.trans k.underway, h.effects.trans k.effects⟩

theorem AgreeOn.mem_underway (h : w.AgreeOn id v) {c : Call} (hc : c.concerns id = true) :
    c ∈ w.underway ↔ c ∈ v.underway := by
  have hmem : c ∈ w.underway.filter (·.concerns id) ↔ c ∈ v.underway.filter (·.concerns id) := by
    rw [h.underway]
  simpa [List.mem_filter, hc] using hmem

theorem AgreeOn.possible_iff (h : w.AgreeOn id v) (hm : m.concerns id = true) :
    w.Possible m ↔ v.Possible m := by
  cases m with
  | request c now => exact Iff.rfl
  | expiry => exact Iff.rfl
  | report p percent => exact h.mem_underway hm
  | answer a => exact h.mem_underway ((Answer.concerns_call a id).trans hm)

/-- A move about another package takes nothing from the calls underway that concern the package. -/
theorem left_aside (w : World) (hm : m.concerns id = false) :
    (w.left m).filter (·.concerns id) = w.underway.filter (·.concerns id) := by
  cases m with
  | answer a =>
    have ha : a.call.concerns id = false := (Answer.concerns_call a id).trans hm
    rw [left_answer, ← List.erase_filter]
    exact List.erase_of_not_mem fun hmem => by simp [ha] at hmem
  | _ => rfl

theorem AgreeOn.left (h : w.AgreeOn id v) (m : Move) :
    (w.left m).filter (·.concerns id) = (v.left m).filter (·.concerns id) := by
  cases m with
  | answer a => rw [left_answer, left_answer, ← List.erase_filter, ← List.erase_filter, h.underway]
  | _ => exact h.underway

/-- A move about another package changes nothing for the package. -/
theorem Coherent.agreeOn_move (h : w.Coherent) (hm : m.concerns id = false) :
    (w.move debounce m).AgreeOn id w := by
  refine move_keeps (P := (AgreeOn id · w)) (AgreeOn.refl id w) fun s es hposs hr => ?_
  obtain ⟨hslice, habout⟩ := hr.aside h.sound hm
  have hcalls : (calls es).filter (·.concerns id) = [] := by rw [← calls_about, habout, calls_nil]
  refine ⟨hslice, ?_, ?_⟩
  · show (w.left m ++ calls es).filter (·.concerns id) = w.underway.filter (·.concerns id)
    rw [List.filter_append, hcalls, List.append_nil, w.left_aside hm]
  · rw [effects_turned, about_append, habout, List.append_nil]

/-- A move that concerns the package does the same for it. -/
theorem AgreeOn.move (h : w.AgreeOn id v) (hw : w.Tidy) (hv : v.Tidy) (debounce : Nat)
    (hm : m.concerns id = true) : (w.move debounce m).AgreeOn id (v.move debounce m) := by
  by_cases hposs : w.Possible m
  · rw [move_of_possible hposs, move_of_possible ((h.possible_iff hm).1 hposs)]
    obtain ⟨hslice, habout⟩ :=
      State.step_same debounce h.slice hw.sound hv.sound hw.distinct hv.distinct hm
    refine ⟨hslice, ?_, ?_⟩
    · show (w.left m ++ calls _).filter (·.concerns id) = (v.left m ++ calls _).filter (·.concerns id)
      rw [List.filter_append, List.filter_append, h.left, ← calls_about, ← calls_about, habout]
    · rw [effects_turned, effects_turned, about_append, about_append, h.effects, habout]
  · rw [move_of_not_possible hposs, move_of_not_possible fun hv => hposs ((h.possible_iff hm).2 hv)]
    exact h

/-- A run agrees on the package with the run of the moves that concern it. -/
theorem AgreeOn.play (h : w.AgreeOn id v) (hw : w.Tidy) (hv : v.Tidy) (debounce : Nat)
    (ms : List Move) :
    (w.play debounce ms).AgreeOn id (v.play debounce (ms.filter (·.concerns id))) := by
  induction ms generalizing w v with
  | nil => exact h
  | cons m ms ih =>
    cases hm : m.concerns id with
    | true =>
      rw [List.filter_cons_of_pos hm]
      exact ih (h.move hw hv debounce hm) (hw.move debounce m) (hv.move debounce m)
    | false =>
      rw [List.filter_cons_of_neg (by simp [hm])]
      exact ih ((hw.agreeOn_move hm).trans h) (hw.move debounce m) hv

/-- **Packages do not interfere.** If two runs have the same moves that concern a package, in the
same order, then the operation pending on it with its progress, its entry in the registry, the
generation and the wait are the same, and so are the calls on the package, the progress of its
installs and the searches, in one order. -/
theorem packages_do_not_interfere (debounce : Nat) (load : Bool) {id : String} {ms ns : List Move}
    (h : ms.filter (·.concerns id) = ns.filter (·.concerns id)) :
    let w := after debounce load ms
    let v := after debounce load ns
    w.state.pending.get? id = v.state.pending.get? id ∧
      w.state.registry.get? id = v.state.registry.get? id ∧
      w.state.generation = v.state.generation ∧
      w.state.waiting = v.state.waiting ∧
      w.effects.filter (·.concerns id) = v.effects.filter (·.concerns id) := by
  have hproj : ∀ ms : List Move, (after debounce load ms).AgreeOn id
      (after debounce load (ms.filter (·.concerns id))) := fun ms =>
    (AgreeOn.refl id (start load)).play (tidy_start load) (tidy_start load) debounce ms
  have hagree := (hproj ms).trans (h ▸ (hproj ns).symm)
  obtain ⟨hp, hr, -, hg, hw⟩ := State.slice_eq_iff.1 hagree.slice
  exact ⟨hp, hr, hg, hw, hagree.effects⟩

/-- Two packages that a search finds, the second one installed. -/
def shelf : List Package :=
  [{ (default : Package) with id := "a", name := "Alpha" },
    { (default : Package) with id := "b", name := "Beta", installed := true }]

/-- A run that installs one package. -/
def aloneMoves : List Move :=
  [.answer (.search 1 "" (.ok shelf)), .request (.operate .install "a") 0, .report shelf[0] 40,
    .answer (.operation .install shelf[0] (.ok ()))]

/-- The same run with the other package uninstalled at the same time. -/
def busyMoves : List Move :=
  [.answer (.search 1 "" (.ok shelf)), .request (.operate .uninstall "b") 0,
    .request (.operate .install "a") 0, .report shelf[0] 40, .request (.operate .install "b") 1,
    .answer (.operation .uninstall shelf[1] (.ok ())),
    .answer (.operation .install shelf[0] (.ok ()))]

/-- What happens to the other package does not show for this one, though the runs differ. -/
theorem packages_do_not_interfere_busy :
    let w := after 300 true busyMoves
    let v := after 300 true aloneMoves
    busyMoves.filter (·.concerns "a") = aloneMoves.filter (·.concerns "a") ∧
      w.state.registry.get? "a" = v.state.registry.get? "a" ∧
      w.effects.filter (·.concerns "a") = v.effects.filter (·.concerns "a") ∧
      w.state.registry.get? "b" ≠ v.state.registry.get? "b" ∧
      v.effects.filter (·.concerns "a") = [.call (.search 1 ""), .call (.operation .install shelf[0]),
        .event (.progress "a" 40)] := by
  have hsame : busyMoves.filter (·.concerns "a") = aloneMoves.filter (·.concerns "a") := by rfl
  obtain ⟨-, hr, -, -, he⟩ := packages_do_not_interfere 300 true hsame
  exact ⟨hsame, hr, he, by decide, by decide⟩

end World

end ExtensionCatalogue.Sync
