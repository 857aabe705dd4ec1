import ExtensionCatalogue.Proofs.Sync.Outcomes

/-!
# Two answers

An answer to a call either fills the registry or sets a flag in it. Two answers to calls underway
are `Apart`: they are to searches of two generations, to operations on two packages, or to a search
and an operation. Such answers may be handled in either order.
-/

namespace ExtensionCatalogue.Sync

namespace State

variable {debounce : Nat} {s t : State} {i : Input} {es : List Effect}

/-! ## The registry -/

/-- The packages that a result has, none at all if it is unreadable. -/
def contents? : Except Failure (List Package) → Option (List Package)
  | .ok packages => some packages
  | .error (.unreadable _) => some []
  | .error _ => none

theorem contents?_failure {failure : Failure} (h : ∀ cause, failure ≠ .unreadable cause) :
    contents? (.error failure) = none := by
  cases failure with
  | unreadable cause => exact absurd rfl (h cause)
  | _ => rfl

/-- The packages that an input puts in the registry, if it is the reply to the latest search. -/
def filling? (s : State) : Input → Option (List Package)
  | .completion (.search g _ result) => if g = s.generation then contents? result else none
  | _ => none

theorem filling?_congr (h : s.generation = t.generation) (i : Input) :
    s.filling? i = t.filling? i := by
  unfold filling?
  rw [h]

theorem latest_of_filling? {packages : List Package} (h : s.filling? i = some packages) :
    ∃ keyword result, i = .completion (.search s.generation keyword result) := by
  unfold filling? at h
  split at h
  · rename_i g keyword result
    split at h
    · rename_i hg
      exact ⟨keyword, result, by rw [hg]⟩
    · cases h
  · cases h

/-- The reply to the latest search fills the registry, with the flags that are remembered. -/
theorem Rule.registry_filled (h : s.Rule debounce i t es) {packages : List Package}
    (hi : s.filling? i = some packages) :
    t.registry =
      (Registry.ofPackages (packages.map fun p => p.withFlag (s.recent? p.id))).1 := by
  rw [← refilled_eq]
  cases h with
  | found keyword packages' =>
    obtain rfl : packages' = packages := by simpa [filling?, contents?] using hi
    rfl
  | unreadable keyword cause =>
    obtain rfl : [] = packages := by simpa [filling?, contents?] using hi
    rfl
  | stale g keyword result hg => simp [filling?, hg] at hi
  | searchFailed keyword failure hf => simp [filling?, contents?_failure hf] at hi
  | _ => cases hi

/-- Any other input sets the flag of its success. -/
theorem Rule.registry_kept (h : s.Rule debounce i t es) (hs : s.registry.Sound)
    (hi : s.filling? i = none) :
    t.registry = s.registry.map fun p => p.withFlag (i.success? p.id) := by
  cases h with
  | found keyword packages => simp [filling?, contents?] at hi
  | unreadable keyword cause => simp [filling?, contents?] at hi
  | done operation id name =>
    rw [registry_succeeded hs, funext (Package.flagged_eq id operation.target)]
    rfl
  | _ => exact (Registry.map_id s.registry).symm

end State

/-! ## Apart -/

namespace Answer

/-- The answers are to searches of two generations, to operations on two packages, or to a search
and an operation. -/
def Apart : Answer → Answer → Prop
  | .search g _ _, .search g' _ _ => g ≠ g'
  | .operation _ p _, .operation _ q _ => p.id ≠ q.id
  | _, _ => True

/-- The operations still pending after an answer. -/
def settle (a : Answer) (t : Pending) : Pending :=
  match a with
  | .operation _ p _ => t.erase p.id
  | .search _ _ _ => t

variable {a b : Answer}

theorem Apart.symm (h : a.Apart b) : b.Apart a := by
  cases a <;> cases b <;> first | exact Ne.symm h | trivial

theorem success?_of_ne {o : Operation} {p : Package} {result : Except Failure Unit} {id : String}
    (h : p.id ≠ id) : (Answer.operation o p result).input.success? id = none := by
  cases result with
  | error failure => rfl
  | ok u => exact if_neg h

/-- Not both set the flag of the same package. -/
theorem Apart.success?_or (h : a.Apart b) (id : String) :
    (a.input.success? id).or (b.input.success? id) =
      (b.input.success? id).or (a.input.success? id) := by
  cases a with
  | search g keyword result => exact (Option.or_none).symm
  | operation o p result =>
    cases b with
    | search g keyword result' => exact Option.or_none
    | operation o' q result' =>
      by_cases hp : p.id = id
      · have hq : q.id ≠ id := fun hq => h (hp.trans hq.symm)
        rw [success?_of_ne hq, Option.or_none, Option.none_or]
      · rw [success?_of_ne hp, Option.or_none, Option.none_or]

/-- Not both are to the latest search. -/
theorem Apart.not_latest (h : a.Apart b) {g : Nat} {keyword : String}
    {result : Except Failure (List Package)}
    (ha : a.input = .completion (.search g keyword result)) (keyword' : String)
    (result' : Except Failure (List Package)) :
    b.input ≠ .completion (.search g keyword' result') := by
  intro hb
  cases a with
  | operation o p r => cases ha
  | search g' k r =>
    cases ha
    cases b with
    | operation o p r' => cases hb
    | search g'' k' r' =>
      cases hb
      exact h rfl

theorem settle_comm (a b : Answer) (t : Pending) :
    b.settle (a.settle t) = a.settle (b.settle t) := by
  cases a <;> cases b <;> first | rfl | exact t.erase_comm _ _

end Answer

namespace State

variable {debounce : Nat} {s t : State} {a b : Answer} {es : List Effect}

/-- An answer ends its operation and fires nothing. -/
theorem Rule.answer (h : s.Rule debounce a.input t es) :
    t.pending = a.settle s.pending ∧ t.generation = s.generation ∧ t.waiting = s.waiting ∧
      calls es = [] := by
  cases a with
  | search g keyword result => exact h.search
  | operation o p result => exact h.operation

theorem Rule.generation_answer (h : s.Rule debounce a.input t es) :
    t.generation = s.generation := h.answer.2.1

/-! The rest is about two answers `a` and `b` handled in both orders, `a` before `b` to the state
`sab` and `b` before `a` to `sba`. -/

section
variable {sa sb sab sba : State} {esa esb esab esba : List Effect} (h : a.Apart b)
  (ha : s.Rule debounce a.input sa esa) (hab : sa.Rule debounce b.input sab esab)
  (hb : s.Rule debounce b.input sb esb) (hba : sb.Rule debounce a.input sba esba)
include h ha hab hb hba

/-- The reply to the latest search may come before or after another answer: the flag that the
other sets is either set in the registry or put back into the response. -/
theorem registry_swap_filled (hs : s.registry.Sound) {packages : List Package}
    (hf : s.filling? a.input = some packages) : sab.registry = sba.registry := by
  obtain ⟨keyword, result, hlatest⟩ := latest_of_filling? hf
  have hnot := h.not_latest hlatest
  have hfa : sb.filling? a.input = some packages := by rw [filling?_congr hb.generation_answer, hf]
  have hfb : sa.filling? b.input = none := by
    cases hfb : sa.filling? b.input with
    | none => rfl
    | some packages' =>
      obtain ⟨keyword', result', e⟩ := latest_of_filling? hfb
      rw [ha.generation_answer] at e
      exact absurd e (hnot keyword' result')
  have hid : ∀ p : Package, (p.withFlag (b.input.success? p.id)).id = p.id := fun _ => rfl
  have hflags : (fun p : Package => p.withFlag (sb.recent? p.id)) =
      (fun p => p.withFlag (b.input.success? p.id)) ∘ fun p => p.withFlag (s.recent? p.id) := by
    funext p
    rw [hb.recent? hb.generation_answer hnot, ← Package.withFlag_withFlag]
    rfl
  calc sab.registry
      = sa.registry.map fun p => p.withFlag (b.input.success? p.id) :=
        hab.registry_kept (ha.sound hs) hfb
    _ = (Registry.ofPackages
          ((packages.map fun p => p.withFlag (s.recent? p.id)).map fun p =>
            p.withFlag (b.input.success? p.id))).1 := by
        rw [ha.registry_filled hf, Registry.ofPackages_map hid]
    _ = sba.registry := by
        rw [hba.registry_filled hfa, hflags, List.map_map]

/-- Two answers of which neither fills the registry set their flags in any order. -/
theorem registry_swap_kept (hs : s.registry.Sound) (hfa : s.filling? a.input = none)
    (hfb : s.filling? b.input = none) : sab.registry = sba.registry := by
  have hfa' : sb.filling? a.input = none := by rw [filling?_congr hb.generation_answer, hfa]
  have hfb' : sa.filling? b.input = none := by rw [filling?_congr ha.generation_answer, hfb]
  have hflags : ∀ p : Package,
      (p.withFlag (a.input.success? p.id)).withFlag (b.input.success? p.id) =
        (p.withFlag (b.input.success? p.id)).withFlag (a.input.success? p.id) := fun p => by
    rw [Package.withFlag_withFlag, Package.withFlag_withFlag, h.success?_or]
  rw [hab.registry_kept (ha.sound hs) hfb', ha.registry_kept hs hfa,
    hba.registry_kept (hb.sound hs) hfa', hb.registry_kept hs hfb, Registry.map_map,
    Registry.map_map]
  exact congrArg s.registry.map (funext hflags)

/-- **Two answers may come in any order**, but for what is remembered. -/
theorem bare_swap (hs : s.registry.Sound) : sab.bare = sba.bare := by
  obtain ⟨hpa, hga, hwa, -⟩ := ha.answer
  obtain ⟨hpb, hgb, hwb, -⟩ := hb.answer
  obtain ⟨hpab, hgab, hwab, -⟩ := hab.answer
  obtain ⟨hpba, hgba, hwba, -⟩ := hba.answer
  refine bare_eq_iff.2 ⟨?_, ?_, by rw [hgab, hga, hgba, hgb], by rw [hwab, hwa, hwba, hwb]⟩
  · cases hfa : s.filling? a.input with
    | some packages => exact registry_swap_filled h ha hab hb hba hs hfa
    | none =>
      cases hfb : s.filling? b.input with
      | some packages => exact (registry_swap_filled h.symm hb hba ha hab hs hfb).symm
      | none => exact registry_swap_kept h ha hab hb hba hs hfa hfb
  · rw [hpab, hpa, hpba, hpb]
    exact Answer.settle_comm a b s.pending

/-- They leave the same remembered for the latest search, if it has not replied. -/
theorem recent?_swap
    (hla : ∀ keyword result, a.input ≠ .completion (.search s.generation keyword result))
    (hlb : ∀ keyword result, b.input ≠ .completion (.search s.generation keyword result))
    (id : String) : sab.recent? id = sba.recent? id := by
  have hga := ha.generation_answer
  have hgb := hb.generation_answer
  rw [hab.recent? hab.generation_answer (hga ▸ hlb), ha.recent? hga hla,
    hba.recent? hba.generation_answer (hgb ▸ hla), hb.recent? hgb hlb,
    ← Option.or_assoc, ← Option.or_assoc, h.success?_or]

end

end State

end ExtensionCatalogue.Sync
