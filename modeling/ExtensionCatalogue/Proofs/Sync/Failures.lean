import ExtensionCatalogue.Proofs.Sync.SingleFlight
import ExtensionCatalogue.Proofs.Sync.LatestSearch

/-!
# Failures leave the rest alone

A search that fails changes nothing, unless its response cannot be read: then the registry is
emptied, together with what is remembered for it. An operation that fails is not pending any more,
and nothing else changes, so the package can be asked for again. Each failure is told by one line,
an error. The line of an operation names the package as the registry held it when the operation was
started, whatever searches have done to the registry since.
-/

namespace ExtensionCatalogue.Sync

/-- How a failure is told: by one line, an error with this text, and by nothing else. -/
def ToldAsFailure (text : String) (es : List Effect) : Prop :=
  calls es = [] ∧ ∃ line, events es = [.status line] ∧ line.isError = true ∧ line.text = text

namespace World

/-- An operation was started by a request at a point of the run at which the registry held the
package as the call has it, and no other operation on its id has been started since. -/
def StartedOn (debounce : Nat) (load : Bool) (w : World) (o : Operation) (p : Package) : Prop :=
  ∃ ns now es since,
    w.record = since ++ ⟨some (.command (.operate o p.id) now), es⟩ ::
      (after debounce load ns).record ∧
    (after debounce load ns).state.registry.get? p.id = some p ∧
    calls es = [.operation o p] ∧
    ∀ t ∈ since, flights p.id (calls t.effects) = []

/-- What failures leave alone, at one point of a run. -/
structure FailSafe (debounce : Nat) (load : Bool) (w : World) : Prop where
  /-- The latest search fails. -/
  search : ∀ keyword failure, (∀ cause, failure ≠ .unreadable cause) →
    let reply := .completion (.search (fired w.record).length keyword (.error failure))
    (w.state.step debounce reply).1 = w.state ∧
    ToldAsFailure failure.text (w.state.step debounce reply).2
  /-- The response to the latest search cannot be read. -/
  unreadable : ∀ keyword cause,
    let reply := .completion (.search (fired w.record).length keyword (.error (.unreadable cause)))
    (w.state.step debounce reply).1 = { w.state with registry := .empty, confirmed := .empty }
  /-- An operation underway fails: it was pending, and is not any more. -/
  operation : ∀ o p failure, .operation o p ∈ w.underway →
    let reply := .completion (.operation o p.id p.name (.error failure))
    (∃ progress, w.state.pending.get? p.id = some ⟨o, progress⟩) ∧
    (w.state.step debounce reply).1 =
      { w.state with pending := w.state.pending.erase p.id } ∧
    ToldAsFailure s!"{o.noun} of {p.name} failed: {failure.text}" (w.state.step debounce reply).2
  /-- The package of an operation underway is as it was when the operation was started. -/
  origin : ∀ o p, .operation o p ∈ w.underway → w.StartedOn debounce load o p
  /-- The next request for the package of a failed operation makes one call if the package is there
  and not in the requested state, and else none. -/
  retry : ∀ o p failure, .operation o p ∈ w.underway → ∀ o' now,
    let reply := .completion (.operation o p.id p.name (.error failure))
    let again :=
      (w.state.step debounce reply).1.step debounce (.command (.operate o' p.id) now)
    (calls again.2 = [] ∨ ∃ q, calls again.2 = [.operation o' q]) ∧
    ∀ q, calls again.2 = [.operation o' q] ↔
      q ∈ w.state.registry.packages ∧ q.id = p.id ∧ q.installed ≠ o'.target

end World

/-! ## Turns -/

namespace State

variable {debounce : Nat} {s t : State} {i : Input} {es : List Effect}

theorem Rule.searchFailed_eq {keyword : String} {failure : Failure}
    (h : s.Rule debounce (.completion (.search s.generation keyword (.error failure))) t es)
    (hf : ∀ cause, failure ≠ .unreadable cause) : t = s ∧ ToldAsFailure failure.text es := by
  cases h with
  | stale g keyword result hg => exact absurd rfl hg
  | unreadable keyword cause => exact absurd rfl (hf cause)
  | searchFailed keyword failure hf => exact ⟨rfl, rfl, _, rfl, rfl, rfl⟩

/-- Nothing is remembered past the latest search. -/
theorem Dated.forgotten (h : s.Dated) : s.confirmed.filter (s.generation < ·.generation) = .empty := by
  have hnone : s.confirmed.entries.filter (s.generation < ·.2.generation) = [] := by
    rw [List.filter_eq_nil_iff]
    intro e he
    have hle := h e he
    simp only [decide_eq_true_eq]
    omega
  rw [Table.filter, hnone]
  rfl

theorem Rule.unreadable_eq {keyword cause : String}
    (h : s.Rule debounce
      (.completion (.search s.generation keyword (.error (.unreadable cause)))) t es)
    (hs : s.Dated) : t = { s with registry := .empty, confirmed := .empty } := by
  cases h with
  | stale g keyword result hg => exact absurd rfl hg
  | unreadable keyword cause =>
    show s.replaced [] = _
    rw [replaced, hs.forgotten]
    rfl
  | searchFailed keyword failure hf => exact absurd rfl (hf cause)

theorem Rule.failed_eq {operation : Operation} {id name : String} {failure : Failure}
    (h : s.Rule debounce (.completion (.operation operation id name (.error failure))) t es) :
    t = { s with pending := s.pending.erase id } ∧
      ToldAsFailure s!"{operation.noun} of {name} failed: {failure.text}" es := by
  cases h with
  | failed operation id name failure =>
    refine ⟨rfl, ?_, .failed operation name failure, ?_, rfl, rfl⟩
    · simp
    · simp

theorem step_failed (debounce : Nat) (s : State) (operation : Operation) (id name : String)
    (failure : Failure) :
    let reply := .completion (.operation operation id name (.error failure))
    (s.step debounce reply).1 = { s with pending := s.pending.erase id } ∧
      ToldAsFailure s!"{operation.noun} of {name} failed: {failure.text}"
        (s.step debounce reply).2 :=
  (rule_step debounce s _).failed_eq

/-- A request that makes a call has started an operation. -/
theorem Rule.started_of_call {operation : Operation} {p : Package}
    (h : s.Rule debounce i t es) (hc : .operation operation p ∈ calls es) :
    calls es = [.operation operation p] ∧ ∃ id now,
      i = .command (.operate operation id) now ∧ s.Startable operation id p := by
  cases h with
  | start o id now q hq =>
    have hcall : Call.operation operation p = .operation o q := by simpa using hc
    cases hcall
    exact ⟨rfl, id, now, rfl, hq⟩
  | found keyword packages => simp at hc
  | done o id name => simp at hc
  | failed o id name failure => simp at hc
  | fire w hw => simp at hc
  | _ => cases hc

/-- The calls of a request: one if an operation can be started, and else none. -/
theorem Rule.calls_request {operation : Operation} {id : String} {now : Nat}
    (h : s.Rule debounce (.command (.operate operation id) now) t es) :
    (calls es = [] ∨ ∃ p, calls es = [.operation operation p]) ∧
      ∀ p, calls es = [.operation operation p] ↔ s.Startable operation id p := by
  cases h with
  | start operation id now p hp =>
    refine ⟨.inr ⟨p, rfl⟩, fun q => ⟨fun hq => ?_, fun hq => ?_⟩⟩
    · have hpq : p = q := by simpa using hq
      exact hpq ▸ hp
    · obtain rfl : p = q := Option.some.inj (hp.2.1.symm.trans hq.2.1)
      rfl
  | ignore operation id now hn =>
    refine ⟨.inl rfl, fun q => ⟨fun hq => ?_, fun hq => absurd hq (hn q)⟩⟩
    simp at hq

end State

/-! ## Runs -/

namespace World

/-- **The package of an operation underway is the one that it was started on.** -/
theorem startedOn_after (debounce : Nat) (load : Bool) (ms : List Move) {o : Operation}
    {p : Package} (hc : .operation o p ∈ (after debounce load ms).underway) :
    (after debounce load ms).StartedOn debounce load o p := by
  induction ms using List.reverseRecOn with
  | nil =>
    -- at the start only a search is underway
    cases load with
    | true =>
      have hsearch : Call.operation o p = .search 1 (Text.trim "") := List.mem_singleton.1 hc
      cases hsearch
    | false => cases hc
  | append_singleton ms m ih =>
    have hw := coherent_after debounce load ms
    rw [after_concat] at hc ⊢
    by_cases hm : (after debounce load ms).Possible m
    · have hr := State.rule_step debounce (after debounce load ms).state m.input
      have hsingle := hw.single_turned hm hr p.id
      rw [move_of_possible hm] at hc ⊢
      generalize ((after debounce load ms).state.step debounce m.input).1 = s at *
      generalize ((after debounce load ms).state.step debounce m.input).2 = es at *
      rcases List.mem_append.1 hc with hleft | hnew
      · have hbefore : .operation o p ∈ (after debounce load ms).underway := by
          cases m with
          | answer a => exact List.mem_of_mem_erase hleft
          | _ => exact hleft
        obtain ⟨ns, now, es', since, hrecord, hget, hcalls, hsince⟩ := ih hbefore
        refine ⟨ns, now, es', ⟨some m.input, es⟩ :: since, ?_, hget, hcalls, ?_⟩
        · show _ :: (after debounce load ms).record = _
          rw [hrecord]
          rfl
        · -- with one operation underway on the package, the turn has made no other call on it
          have hflight : o ∈ flights p.id ((after debounce load ms).left m) :=
            List.mem_filterMap.2 ⟨_, hleft, if_pos rfl⟩
          have hlen := s.length_running_le p.id
          rw [← hsingle, flights_append, List.length_append] at hlen
          have hpos := List.length_pos_of_mem hflight
          have hnone : flights p.id (calls es) = [] := List.length_eq_zero_iff.1 (by omega)
          exact List.forall_mem_cons.2 ⟨hnone, hsince⟩
      · obtain ⟨hcalls, id, now, hi, hstart⟩ := hr.started_of_call hnew
        obtain ⟨-, hid⟩ := hw.sound.get?_eq_some_iff.1 hstart.2.1
        subst hid
        refine ⟨ms, now, es, [], ?_, hstart.2.1, hcalls, fun t ht => by cases ht⟩
        rw [← hi]
        rfl
    · rw [move_of_not_possible hm] at hc ⊢
      exact ih hc

/-- After a failed operation its package is free, as far as the registry allows. -/
theorem Coherent.startable_erase {w : World} (hw : w.Coherent) (o : Operation) (id : String)
    (q : Package) :
    State.Startable { w.state with pending := w.state.pending.erase id } o id q ↔
      q ∈ w.state.registry.packages ∧ q.id = id ∧ q.installed ≠ o.target := by
  unfold State.Startable
  rw [Table.get?_erase, if_pos rfl, hw.sound.get?_eq_some_iff]
  simp [and_assoc]

/-- **Failures leave the rest alone.** At every point of every run the failure of the latest search
changes nothing, an unreadable response to it empties the registry and what is remembered, and the
failure of an operation ends it and changes nothing else. -/
theorem failSafe_after (debounce : Nat) (load : Bool) (ms : List Move) :
    (after debounce load ms).FailSafe debounce load := by
  have hw := coherent_after debounce load ms
  have hlatest := (counted_after debounce load ms).length_fired
  refine ⟨?_, ?_, ?_, ?_, ?_⟩
  · intro keyword failure hf
    rw [hlatest]
    exact (State.rule_step debounce _ _).searchFailed_eq hf
  · intro keyword cause
    rw [hlatest]
    exact (State.rule_step debounce _ _).unreadable_eq hw.dated
  · intro o p failure hc
    exact ⟨hw.pending hc, State.step_failed debounce _ o p.id p.name failure⟩
  · intro o p hc
    exact startedOn_after debounce load ms hc
  · intro o p failure hc o' now
    dsimp only
    rw [(State.step_failed debounce _ o p.id p.name failure).1]
    have hr := State.rule_step debounce
      { (after debounce load ms).state with
        pending := (after debounce load ms).state.pending.erase p.id }
      (.command (.operate o' p.id) now)
    obtain ⟨hone, hiff⟩ := hr.calls_request
    refine ⟨hone, fun q => ?_⟩
    rw [hiff, hw.startable_erase]

end World

end ExtensionCatalogue.Sync
