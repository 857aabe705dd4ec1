import ExtensionCatalogue.Proofs.Sync.Record

/-!
# One operation at a time

For each package at most one operation is underway, and it is the pending one. The record bears
it out: the calls made on a package are those whose results have been handled, in the same order
and of the same kinds, with the pending one after them. A request starts a call exactly if none is
underway and the package is there and not yet in the requested state; else it changes nothing.
-/

namespace ExtensionCatalogue.Sync

/-- The operation on the package that ended in a turn, if one did. -/
def Turn.ended (t : Turn) (id : String) : List Operation :=
  match t.input with
  | some (.completion (.operation o i _ _)) => if i = id then [o] else []
  | _ => []

/-- The calls made on a package, the latest first. -/
def started (id : String) (record : List Turn) : List Operation :=
  record.flatMap fun t => flights id (calls t.effects)

/-- The operations on a package whose results have been handled, the latest first. -/
def ended (id : String) (record : List Turn) : List Operation :=
  record.flatMap (·.ended id)

/-- Whether a request would start an operation: none is underway, and the package is in the
registry and not in the requested state. -/
def World.Free (w : World) (operation : Operation) (id : String) : Prop :=
  flights id w.underway = [] ∧
    ∃ p ∈ w.state.registry.packages, p.id = id ∧ p.installed ≠ operation.target

/-- What single flight means, at one point of a run. -/
structure World.SingleFlight (debounce : Nat) (w : World) : Prop where
  /-- All calls made on a package have ended, in order, but for the pending one. -/
  record : ∀ id, started id w.record = w.state.running id ++ ended id w.record
  /-- The operations underway on a package are the pending one. -/
  underway : ∀ id, flights id w.underway = w.state.running id
  /-- The result of a call finds its operation pending. -/
  expected : ∀ o p, .operation o p ∈ w.underway →
    ∃ progress, w.state.pending.get? p.id = some ⟨o, progress⟩
  /-- No result has come unexpected. -/
  silent : ∀ t ∈ w.record, ∀ o id, .notice (.unexpected o id) ∉ t.effects
  /-- A request makes one call and tells of it, if and only if the package is free for it. -/
  starts : ∀ o id now, w.Free o id ↔ ∃ p ∈ w.state.registry.packages, p.id = id ∧
    calls (w.state.step debounce (.command (.operate o id) now)).2 = [.operation o p] ∧
    events (w.state.step debounce (.command (.operate o id) now)).2 =
      [.status (.started o p.name)]
  /-- Any other request changes nothing and tells nothing. -/
  ignores : ∀ o id now, ¬ w.Free o id →
    (w.state.step debounce (.command (.operate o id) now)).1 = w.state ∧
    calls (w.state.step debounce (.command (.operate o id) now)).2 = [] ∧
    events (w.state.step debounce (.command (.operate o id) now)).2 = []

namespace World

variable {debounce : Nat} {w : World} {m : Move} {s : State} {es : List Effect}

/-! ## The record -/

/-- A turn ends what it takes from the operations underway. -/
theorem Coherent.flights_left (h : w.Coherent) (hm : w.Possible m) (es : List Effect)
    (id : String) :
    flights id w.underway = Turn.ended ⟨some m.input, es⟩ id ++ flights id (w.left m) := by
  cases m with
  | answer a =>
    cases a with
    | search generation keyword result => exact (flights_erase_of_none rfl w.underway).symm
    | operation o p result =>
      have hend : Turn.ended ⟨some (Move.answer (.operation o p result)).input, es⟩ id =
          if p.id = id then [o] else [] := rfl
      rw [hend]
      by_cases he : p.id = id
      · have hon : Call.operationOn? id (.operation o p) = some o := if_pos he
        obtain ⟨hrun, hleft⟩ := flights_erase hon hm (h.single id)
        rw [if_pos he, left_answer, h.single, State.running, hrun]
        exact congrArg (o :: ·) hleft.symm
      · have hoff : Call.operationOn? id (.operation o p) = none := if_neg he
        rw [if_neg he]
        exact (flights_erase_of_none hoff w.underway).symm
  | _ => rfl

/-- Lists too short to tell in which order they are joined. -/
theorem append_rotate {α : Type} {as bs cs : List α} (h : (as ++ bs).length ≤ 1)
    (h' : (bs ++ cs).length ≤ 1) : cs ++ (as ++ bs) = bs ++ cs ++ as := by
  cases bs with
  | nil => simp
  | cons b bs =>
    simp only [List.length_append, List.length_cons] at h h'
    have has : as = [] := List.length_eq_zero_iff.1 (by omega)
    have hcs : cs = [] := List.length_eq_zero_iff.1 (by omega)
    simp [has, hcs]

theorem Coherent.record_turned (h : w.Coherent) (hm : w.Possible m)
    (hr : w.state.Rule debounce m.input s es) {id : String}
    (hw : started id w.record = w.state.running id ++ ended id w.record) :
    started id (w.turned m s es).record = s.running id ++ ended id (w.turned m s es).record := by
  have hbefore := h.flights_left hm es id
  have hafter := h.single_turned hm hr id
  rw [h.single] at hbefore
  rw [flights_append] at hafter
  have hrotate : flights id (calls es) ++ w.state.running id =
      s.running id ++ Turn.ended ⟨some m.input, es⟩ id := by
    rw [hbefore, ← hafter]
    exact append_rotate (hbefore ▸ w.state.length_running_le id)
      (hafter ▸ s.length_running_le id)
  calc started id (w.turned m s es).record
      = flights id (calls es) ++ started id w.record := rfl
    _ = flights id (calls es) ++ w.state.running id ++ ended id w.record := by
        rw [hw, List.append_assoc]
    _ = s.running id ++ (Turn.ended ⟨some m.input, es⟩ id ++ ended id w.record) := by
        rw [hrotate, List.append_assoc]
    _ = s.running id ++ ended id (w.turned m s es).record := rfl

/-! ## Results -/

/-- Only a result without a pending operation is unexpected. -/
theorem unexpected_of_mem {t : State} {i : Input} (hr : s.Rule debounce i t es) {o : Operation}
    {id : String} (h : .notice (.unexpected o id) ∈ es) :
    s.pending.get? id = none ∧ ∃ name result, i = .completion (.operation o id name result) := by
  have hwarn : ∀ o' id', .notice (.unexpected o id) ∈ s.warning o' id' →
      o' = o ∧ id' = id ∧ s.pending.get? id = none := by
    intro o' id' hw
    unfold State.warning Table.contains at hw
    split at hw
    · cases hw
    · rename_i hnone
      obtain ⟨rfl, rfl⟩ : o = o' ∧ id = id' := by simpa using hw
      exact ⟨rfl, rfl, by simpa using hnone⟩
  cases hr with
  | found keyword packages =>
    have hn : Notice.unexpected o id ∈ (s.refilled packages).2 := by
      simpa [State.published] using h
    obtain ⟨p, -, e⟩ := Registry.duplicate_of_mem_notices hn
    cases e
  | done o' id' name =>
    have hw : .notice (.unexpected o id) ∈ s.warning o' id' := by
      have hchange : .notice (.unexpected o id) ≠ s.change o' id' := by
        unfold State.change
        split <;> simp [State.published]
      simpa [hchange] using h
    obtain ⟨rfl, rfl, hnone⟩ := hwarn o' id' hw
    exact ⟨hnone, name, _, rfl⟩
  | failed o' id' name failure =>
    have hw : .notice (.unexpected o id) ∈ s.warning o' id' := by simpa using h
    obtain ⟨rfl, rfl, hnone⟩ := hwarn o' id' hw
    exact ⟨hnone, name, _, rfl⟩
  | ignore o' id' now hn =>
    unfold State.refusal at h
    split at h <;> simp at h
  | _ => simp [State.published] at h

theorem underway_of_result {o : Operation} {id name : String} {result : Except Failure Unit}
    (hm : w.Possible m) (hi : m.input = .completion (.operation o id name result)) :
    ∃ p, p.id = id ∧ .operation o p ∈ w.underway := by
  cases m with
  | answer a =>
    cases a with
    | search g keyword result' => cases hi
    | operation o' p result' =>
      cases hi
      exact ⟨p, rfl, hm⟩
  | _ => cases hi

theorem Coherent.pending (h : w.Coherent) {o : Operation} {p : Package}
    (hc : .operation o p ∈ w.underway) :
    ∃ progress, w.state.pending.get? p.id = some ⟨o, progress⟩ := by
  have hon : Call.operationOn? p.id (.operation o p) = some o := if_pos rfl
  obtain ⟨hrun, -⟩ := flights_erase hon hc (h.single p.id)
  obtain ⟨f, hf, rfl⟩ := Option.map_eq_some_iff.1 hrun
  exact ⟨f.progress, hf⟩

/-! ## Requests -/

theorem Coherent.free_iff (h : w.Coherent) (o : Operation) (id : String) :
    w.Free o id ↔ ∃ p, w.state.Startable o id p := by
  have hnone : flights id w.underway = [] ↔ w.state.pending.get? id = none := by
    rw [h.single, State.running]
    cases w.state.pending.get? id <;> simp
  constructor
  · rintro ⟨hf, p, hp, hid, hi⟩
    exact ⟨p, hnone.1 hf, h.sound.get?_eq_some_iff.2 ⟨hp, hid⟩, hi⟩
  · rintro ⟨p, hf, hp, hi⟩
    obtain ⟨hp, hid⟩ := h.sound.get?_eq_some_iff.1 hp
    exact ⟨hnone.2 hf, p, hp, hid, hi⟩

/-- A request starts an operation on a package that is free for it, and else it changes nothing. -/
theorem Coherent.request (h : w.Coherent) {o : Operation} {id : String} {now : Nat}
    (hr : w.state.Rule debounce (.command (.operate o id) now) s es) :
    (w.Free o id ∧ ∃ p ∈ w.state.registry.packages, p.id = id ∧
      calls es = [.operation o p] ∧ events es = [.status (.started o p.name)]) ∨
    (¬ w.Free o id ∧ s = w.state ∧ calls es = [] ∧ events es = []) := by
  cases hr with
  | start o id now p hp =>
    obtain ⟨hmem, hid⟩ := h.sound.get?_eq_some_iff.1 hp.2.1
    exact .inl ⟨(h.free_iff o id).2 ⟨p, hp⟩, p, hmem, hid, rfl, rfl⟩
  | ignore o id now hn =>
    refine .inr ⟨fun hf => ?_, rfl, rfl, rfl⟩
    obtain ⟨p, hp⟩ := (h.free_iff o id).1 hf
    exact hn p hp

/-! ## The main result -/

/-- What the record of a run shows: each call on a package ends before the next one, and no result
comes unexpected. -/
structure Orderly (w : World) : Prop where
  record : ∀ id, started id w.record = w.state.running id ++ ended id w.record
  silent : ∀ t ∈ w.record, ∀ o id, .notice (.unexpected o id) ∉ t.effects

theorem orderly_start (load : Bool) : (start load).Orderly where
  record id := by cases load <;> rfl
  silent t ht o id := by
    cases load with
    | true =>
      obtain rfl := List.mem_singleton.1 ht
      simp
    | false =>
      obtain rfl := List.mem_singleton.1 ht
      exact List.not_mem_nil

theorem Orderly.turned (h : w.Orderly) (hw : w.Coherent) (hm : w.Possible m)
    (hr : w.state.Rule debounce m.input s es) : (w.turned m s es).Orderly where
  record id := hw.record_turned hm hr (h.record id)
  silent t ht o id hu := by
    rcases List.mem_cons.1 ht with rfl | ht
    · obtain ⟨hnone, name, result, hi⟩ := unexpected_of_mem hr hu
      obtain ⟨p, rfl, hp⟩ := underway_of_result hm hi
      obtain ⟨progress, hsome⟩ := hw.pending hp
      rw [hnone] at hsome
      cases hsome
    · exact h.silent t ht o id hu

theorem orderly_after (debounce : Nat) (load : Bool) (ms : List Move) :
    (after debounce load ms).Orderly :=
  coherent_keeps orderly_start (fun _ _ _ _ hw h hm hr => h.turned hw hm hr) load ms

/-- **One operation at a time.** At every point of every run the pending operation on a package is
the only call on it underway, no result comes unexpected, and a request makes a call exactly when
the package is free for it. -/
theorem singleFlight_after (debounce : Nat) (load : Bool) (ms : List Move) :
    (after debounce load ms).SingleFlight debounce := by
  have h := coherent_after debounce load ms
  have ho := orderly_after debounce load ms
  refine ⟨ho.record, h.single, fun o p => h.pending, ho.silent, fun o id now => ?_,
    fun o id now hf => ?_⟩
  · rcases h.request (State.rule_step debounce _ (.command (.operate o id) now)) with
      ⟨hf, hp⟩ | ⟨hf, -, hc, -⟩
    · exact iff_of_true hf hp
    · refine iff_of_false hf ?_
      rintro ⟨p, -, -, hp, -⟩
      rw [hc] at hp
      cases hp
  · rcases h.request (State.rule_step debounce _ (.command (.operate o id) now)) with
      ⟨hfree, -⟩ | ⟨-, hsame⟩
    · exact absurd hfree hf
    · exact hsame

end World

end ExtensionCatalogue.Sync
