import ExtensionCatalogue.Proofs.Registry
import ExtensionCatalogue.Sync.Controller

/-!
# Turns of the controller

`State.Rule` lists what one input can do to a controller, one rule for each outcome with its
guard, its next state and its effects. `rule_step` says that every step is by one of the
rules, so a proof about steps is a proof for each rule.
-/

namespace ExtensionCatalogue.Sync

/-! ## Parts of the effects -/

def Effect.call? : Effect → Option Call
  | .call c => some c
  | _ => none

def Effect.event? : Effect → Option Event
  | .event e => some e
  | _ => none

/-- The calls among some effects, in order. -/
def calls (es : List Effect) : List Call := es.filterMap Effect.call?

/-- The events among some effects, in order. -/
def events (es : List Effect) : List Event := es.filterMap Effect.event?

section
variable (es fs : List Effect) (c : Call) (e : Event) (n : Notice)

@[simp] theorem calls_nil : calls [] = [] := rfl
@[simp] theorem calls_call : calls (.call c :: es) = c :: calls es := rfl
@[simp] theorem calls_event : calls (.event e :: es) = calls es := rfl
@[simp] theorem calls_notice : calls (.notice n :: es) = calls es := rfl
@[simp] theorem calls_append : calls (es ++ fs) = calls es ++ calls fs := List.filterMap_append

@[simp] theorem events_nil : events [] = [] := rfl
@[simp] theorem events_call : events (.call c :: es) = events es := rfl
@[simp] theorem events_event : events (.event e :: es) = e :: events es := rfl
@[simp] theorem events_notice : events (.notice n :: es) = events es := rfl
@[simp] theorem events_append : events (es ++ fs) = events es ++ events fs := List.filterMap_append

end

@[simp] theorem calls_notices (ns : List Notice) : calls (ns.map .notice) = [] := by
  induction ns with
  | nil => rfl
  | cons n ns ih => exact ih

@[simp] theorem events_notices (ns : List Notice) : events (ns.map .notice) = [] := by
  induction ns with
  | nil => rfl
  | cons n ns ih => exact ih

/-! ## Pending operations -/

theorem Pending.begin?_of_free {t : Pending} {id : String} (h : t.get? id = none)
    (operation : Operation) : t.begin? id operation = some (t.insert id ⟨operation, 0⟩) := by
  rw [begin?, Table.contains, h]
  rfl

theorem Pending.advance?_of_le {t : Pending} {id : String} {progress percent : Nat}
    (h : t.get? id = some ⟨.install, progress⟩) (hp : progress ≤ percent) :
    t.advance? id percent = some (min percent 100, t.insert id ⟨.install, min percent 100⟩) := by
  have hlt : ¬ percent < progress := by omega
  simp only [Pending.advance?, h, if_neg hlt]

theorem Pending.advance?_eq_none {t : Pending} {id : String} {percent : Nat}
    (h : ∀ progress ≤ percent, t.get? id ≠ some ⟨.install, progress⟩) :
    t.advance? id percent = none := by
  unfold Pending.advance?
  split
  · rename_i progress hp
    have hlt : percent < progress := Nat.lt_of_not_le fun hle => h progress hle hp
    exact if_pos hlt
  · rfl

namespace State

@[simp] theorem calls_published (r : Registry) (es : List Effect) :
    calls (published r :: es) = calls es := rfl

@[simp] theorem events_published (r : Registry) (es : List Effect) :
    events (published r :: es) = .registryChanged r.installed r.recommended :: events es := by
  rw [published, events_event, Registry.views_eq]

/-! ## Rules -/

/-- The package that a request would start an operation on. -/
def Startable (s : State) (operation : Operation) (id : String) (p : Package) : Prop :=
  s.pending.get? id = none ∧ s.registry.get? id = some p ∧ p.installed ≠ operation.target

/-- Why a request is ignored. -/
def refusal (s : State) (operation : Operation) (id : String) : Notice :=
  match s.pending.get? id, s.registry.get? id with
  | some running, _ => .ignoredBusy operation id running.operation
  | none, none => .ignoredUnknown operation id
  | none, some _ => .ignoredInPlace operation id

/-- The registry filled with the response to the latest search. -/
def refilled (s : State) (packages : List Package) : Registry × List Notice :=
  Registry.ofPackages (packages.map (s.reconcile s.generation))

/-- The state after the response to the latest search. -/
def replaced (s : State) (packages : List Package) : State :=
  { s with
    registry := (s.refilled packages).1
    confirmed := s.confirmed.filter (s.generation < ·.generation) }

/-- The state after an operation has succeeded. -/
def succeeded (s : State) (operation : Operation) (id : String) : State :=
  { s with
    registry := (s.registry.setInstalled? id operation.target).getD s.registry
    pending := s.pending.erase id
    confirmed := s.confirmed.insert id ⟨operation.target, s.generation⟩ }

/-- The warning about a result that nobody waits for. -/
def warning (s : State) (operation : Operation) (id : String) : List Effect :=
  if s.pending.contains id then [] else [.notice (.unexpected operation id)]

/-- What tells of a flag set: the new views, if the package is still there. -/
def change (s : State) (operation : Operation) (id : String) : Effect :=
  match s.registry.setInstalled? id operation.target with
  | some registry => published registry
  | none => .notice (.departed operation id)

/-- What an input can do. -/
inductive Rule (debounce : Nat) (s : State) : Input → State → List Effect → Prop where
  | wait (keyword : String) (now : Nat) :
      Rule debounce s (.command (.search keyword) now)
        { s with waiting := some ⟨now + debounce, keyword⟩ } []
  | start (operation : Operation) (id : String) (now : Nat) (p : Package)
      (h : s.Startable operation id p) :
      Rule debounce s (.command (.operate operation id) now)
        { s with pending := s.pending.insert id ⟨operation, 0⟩ }
        [.notice (.started operation id), .event (.status (.started operation p.name)),
          .call (.operation operation p)]
  | ignore (operation : Operation) (id : String) (now : Nat)
      (h : ∀ p, ¬ s.Startable operation id p) :
      Rule debounce s (.command (.operate operation id) now) s
        [.notice (s.refusal operation id)]
  | stale (generation : Nat) (keyword : String) (result : Except Failure (List Package))
      (h : generation ≠ s.generation) :
      Rule debounce s (.completion (.search generation keyword result)) s
        [.notice (.searchStale keyword generation s.generation)]
  | found (keyword : String) (packages : List Package) :
      Rule debounce s (.completion (.search s.generation keyword (.ok packages)))
        (s.replaced packages)
        ((s.refilled packages).2.map .notice ++ [published (s.replaced packages).registry] ++
          [.event (.status (.found (s.replaced packages).registry.size))])
  | unreadable (keyword cause : String) :
      Rule debounce s (.completion (.search s.generation keyword (.error (.unreadable cause))))
        (s.replaced [])
        [.notice (.searchUnreadable keyword cause), published (s.replaced []).registry,
          .event (.status (.unreadable cause))]
  | searchFailed (keyword : String) (failure : Failure)
      (h : ∀ cause, failure ≠ .unreadable cause) :
      Rule debounce s (.completion (.search s.generation keyword (.error failure))) s
        [.notice (.searchFailed keyword failure), .event (.status (.searchFailed failure))]
  | advance (id : String) (progress percent : Nat)
      (h : s.pending.get? id = some ⟨.install, progress⟩) (hp : progress ≤ percent) :
      Rule debounce s (.completion (.progress id percent))
        { s with pending := s.pending.insert id ⟨.install, min percent 100⟩ }
        [.event (.progress id (min percent 100))]
  | disregard (id : String) (percent : Nat)
      (h : ∀ progress ≤ percent, s.pending.get? id ≠ some ⟨.install, progress⟩) :
      Rule debounce s (.completion (.progress id percent)) s []
  | done (operation : Operation) (id name : String) :
      Rule debounce s (.completion (.operation operation id name (.ok ())))
        (s.succeeded operation id)
        (s.warning operation id ++ [.notice (.finished operation id), s.change operation id,
          .event (.status (.done operation name))])
  | failed (operation : Operation) (id name : String) (failure : Failure) :
      Rule debounce s (.completion (.operation operation id name (.error failure)))
        { s with pending := s.pending.erase id }
        (s.warning operation id ++ [.notice (.failed operation id failure),
          .event (.status (.failed operation name failure))])
  | fire (w : Waiting) (h : s.waiting = some w) :
      Rule debounce s .expiry { s with generation := s.generation + 1, waiting := none }
        [.notice (.searchFired (Text.trim w.keyword) (s.generation + 1)),
          .event (.status .searching), .call (.search (s.generation + 1) (Text.trim w.keyword))]
  | idle (h : s.waiting = none) : Rule debounce s .expiry s []

variable {debounce : Nat} {s : State}

theorem rule_begin (operation : Operation) (id : String) (now : Nat) :
    Rule debounce s (.command (.operate operation id) now) (s.begin operation id).1
      (s.begin operation id).2 := by
  unfold begin
  cases hrun : s.pending.get? id with
  | some running =>
    have hr : Rule debounce s _ _ _ :=
      .ignore operation id now fun p hp => by simp [hp.1] at hrun
    simpa only [refusal, hrun] using hr
  | none =>
    cases hget : s.registry.get? id with
    | none =>
      have hr : Rule debounce s _ _ _ :=
        .ignore operation id now fun p hp => by simp [hp.2.1] at hget
      simpa only [refusal, hrun, hget] using hr
    | some p =>
      simp only
      split
      · rename_i hi
        have hr : Rule debounce s _ _ _ := .ignore operation id now fun q hq => by
          obtain rfl := Option.some.inj (hget.symm.trans hq.2.1)
          exact hq.2.2 hi
        simpa only [refusal, hrun, hget] using hr
      · rename_i hi
        rw [Pending.begin?_of_free hrun, Option.getD_some]
        exact .start operation id now p ⟨hrun, hget, hi⟩

theorem rule_applySearch (generation : Nat) (keyword : String)
    (result : Except Failure (List Package)) :
    Rule debounce s (.completion (.search generation keyword result))
      (s.applySearch generation keyword result).1 (s.applySearch generation keyword result).2 := by
  unfold applySearch
  split
  · rename_i hg
    exact .stale generation keyword result hg
  · rename_i hg
    obtain rfl : generation = s.generation := by simpa using hg
    split
    · exact .found keyword _
    · exact .unreadable keyword _
    · rename_i failure hf
      exact .searchFailed keyword failure hf

theorem rule_finish (operation : Operation) (id name : String) (result : Except Failure Unit) :
    Rule debounce s (.completion (.operation operation id name result))
      (s.finish operation id name result).1 (s.finish operation id name result).2 := by
  cases result with
  | error failure => exact .failed operation id name failure
  | ok u =>
    have hr : Rule debounce s _ _ _ := .done operation id name
    unfold succeeded change at hr
    unfold finish
    dsimp only
    cases hs : s.registry.setInstalled? id operation.target with
    | none =>
      rw [hs] at hr
      exact hr
    | some r =>
      rw [hs] at hr
      exact hr

theorem rule_progress (id : String) (percent : Nat) :
    Rule debounce s (.completion (.progress id percent))
      (s.handleCompletion (.progress id percent)).1
      (s.handleCompletion (.progress id percent)).2 := by
  simp only [handleCompletion]
  by_cases h : ∃ progress ≤ percent, s.pending.get? id = some ⟨.install, progress⟩
  · obtain ⟨progress, hp, h⟩ := h
    rw [Pending.advance?_of_le h hp]
    exact .advance id progress percent h hp
  · have hnot : ∀ progress ≤ percent, s.pending.get? id ≠ some ⟨.install, progress⟩ :=
      fun progress hp e => h ⟨progress, hp, e⟩
    rw [Pending.advance?_eq_none hnot]
    exact .disregard id percent hnot

/-- **Every step is by a rule.** -/
theorem rule_step (debounce : Nat) (s : State) (i : Input) :
    Rule debounce s i (s.step debounce i).1 (s.step debounce i).2 := by
  cases i with
  | command c now =>
    cases c with
    | search keyword => exact .wait keyword now
    | operate operation id => exact rule_begin operation id now
  | completion c =>
    cases c with
    | search generation keyword result => exact rule_applySearch generation keyword result
    | operation operation id name result => exact rule_finish operation id name result
    | progress id percent => exact rule_progress id percent
  | expiry =>
    simp only [step, expire]
    cases h : s.waiting with
    | none => exact .idle h
    | some w => exact .fire w h

/-! ## What rules leave alone -/

@[simp] theorem calls_warning (operation : Operation) (id : String) :
    calls (s.warning operation id) = [] := by
  unfold warning; split <;> rfl

@[simp] theorem events_warning (operation : Operation) (id : String) :
    events (s.warning operation id) = [] := by
  unfold warning; split <;> rfl

@[simp] theorem calls_change (operation : Operation) (id : String) (es : List Effect) :
    calls (s.change operation id :: es) = calls es := by
  unfold change; split <;> rfl

variable {t : State} {es : List Effect}

/-- The reply to a search touches the registry and the outcomes only. -/
theorem Rule.search {generation : Nat} {keyword : String}
    {result : Except Failure (List Package)}
    (h : Rule debounce s (.completion (.search generation keyword result)) t es) :
    t.pending = s.pending ∧ t.generation = s.generation ∧ t.waiting = s.waiting ∧
      calls es = [] := by
  cases h <;> simp [replaced]

/-- The result of an operation ends it and touches the registry and the outcomes only. -/
theorem Rule.operation {operation : Operation} {id name : String} {result : Except Failure Unit}
    (h : Rule debounce s (.completion (.operation operation id name result)) t es) :
    t.pending = s.pending.erase id ∧ t.generation = s.generation ∧ t.waiting = s.waiting ∧
      calls es = [] := by
  cases h <;> simp [succeeded]

/-! ## Registry and outcomes -/

theorem registry_succeeded (h : s.registry.Sound) (operation : Operation) (id : String) :
    (s.succeeded operation id).registry =
      s.registry.map (Package.flagged id operation.target) := by
  simp only [succeeded, h.setInstalled?]
  cases hid : s.registry.contains id with
  | true => rfl
  | false => exact (h.map_flagged hid operation.target).symm

theorem Rule.sound {i : Input} (h : Rule debounce s i t es) (hs : s.registry.Sound) :
    t.registry.Sound := by
  cases h with
  | found keyword packages => exact Registry.Sound.ofPackages _
  | unreadable keyword cause => exact Registry.Sound.ofPackages _
  | done operation id name =>
    rw [registry_succeeded hs]
    exact hs.map (Package.flagged_id id operation.target)
  | _ => exact hs

/-- No outcome is newer than the latest search. -/
def Dated (s : State) : Prop := ∀ e ∈ s.confirmed.entries, e.2.generation ≤ s.generation

theorem Dated.le {id : String} {o : Outcome} (h : s.Dated) (ho : s.confirmed.get? id = some o) :
    o.generation ≤ s.generation := by
  obtain ⟨es, fs, he, -⟩ := List.lookup_eq_some_iff.1 ho
  have hmem : (id, o) ∈ s.confirmed.entries := by simp [he]
  exact h _ hmem

theorem Rule.dated {i : Input} (h : Rule debounce s i t es) (hs : s.Dated) : t.Dated := by
  have hfilter : ∀ p : Outcome → Bool, ∀ e ∈ (s.confirmed.filter p).entries,
      e.2.generation ≤ s.generation := fun p e he => hs e (List.mem_filter.1 he).1
  cases h with
  | found keyword packages => exact hfilter _
  | unreadable keyword cause => exact hfilter _
  | done operation id name =>
    intro e he
    rcases List.mem_cons.1 he with rfl | he
    · exact Nat.le_refl _
    · exact hs e (List.mem_filter.1 he).1
  | fire w hw => exact fun e he => Nat.le_succ_of_le (hs e he)
  | _ => exact hs

/-- At most one outcome is remembered for each package. -/
theorem Rule.distinct {i : Input} (h : Rule debounce s i t es) (hs : s.confirmed.Distinct) :
    t.confirmed.Distinct := by
  cases h with
  | found keyword packages => exact hs.filter _
  | unreadable keyword cause => exact hs.filter _
  | done operation id name => exact hs.insert _ _
  | _ => exact hs

end State

end ExtensionCatalogue.Sync
