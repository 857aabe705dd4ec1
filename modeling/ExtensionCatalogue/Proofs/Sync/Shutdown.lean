import ExtensionCatalogue.Proofs.Sync.Clock
import ExtensionCatalogue.Proofs.Sync.Loop

/-!
# Stopping

A machine is played turn by turn, with any number of handles. A `Ledger` says what has become of the
requests accepted so far: those handled come first, in the order of sending, and the rest is queued.
The loop ends with the queue empty and no handle left, so no request is lost and none is refused
while there is a handle; and a machine whose loop has ended is `Still`, whatever happens to it.
-/

namespace ExtensionCatalogue.Sync

/-- The request that a turn has handled, if there is one. -/
def Turn.command? (t : Turn) : Option Command :=
  match t.input with
  | some (.command c _) => some c
  | _ => none

/-- The requests handled in some turns, in order. -/
def handled (ts : List Turn) : List Command := ts.filterMap Turn.command?

theorem handled_cons (t : Turn) (ts : List Turn) :
    handled (t :: ts) = t.command?.toList ++ handled ts := by
  unfold handled
  cases h : t.command? with
  | none => exact List.filterMap_cons_none h
  | some c => exact List.filterMap_cons_some h

theorem handled_append (ts us : List Turn) : handled (ts ++ us) = handled ts ++ handled us :=
  List.filterMap_append

namespace Machine

/-- The request that is sent and accepted, if one is. -/
def accepted? (m : Machine) : Act → Option Command
  | .outside (.send c) => (m.send c).toOption.map fun _ => c
  | _ => none

/-- The requests that are sent and accepted while all this happens, in order. -/
def accepted (m : Machine) : List Act → List Command
  | [] => []
  | a :: as => (m.accepted? a).toList ++ (m.act a).1.accepted as

/-- What has become of the requests accepted so far, `done` being those handled. -/
structure Ledger (m : Machine) (sent done : List Command) : Prop where
  /-- Only an abort loses requests. -/
  queued : m.phase ≠ .aborted → sent = done ++ m.commands
  inOrder : done <+: sent
  /-- The loop ends by itself only when it is deserted and has handled everything. -/
  deserted : m.phase = .ended → m.commands = [] ∧ m.handles = 0

variable {m : Machine} {sent done : List Command}

theorem act_of_isQuiet {k : Happening} (hk : k.isQuiet = true) (m : Machine) :
    m.act (.outside k) = ((m.happen k).1, []) ∧ m.accepted? (.outside k) = none := by
  cases k <;> first | exact ⟨rfl, rfl⟩ | contradiction

/-! ## What a turn does to the ledger -/

namespace Ledger

/-- What is not about requests may change. -/
theorem congr {m' : Machine} (h : Ledger m sent done) (hc : m'.commands = m.commands)
    (hp : m'.phase = m.phase) (hh : m.handles = 0 → m'.handles = 0) : Ledger m' sent done where
  queued hna := by
    rw [hc]
    exact h.queued (hp ▸ hna)
  inOrder := h.inOrder
  deserted he := by
    obtain ⟨hnil, hzero⟩ := h.deserted (hp ▸ he)
    exact ⟨hc.trans hnil, hh hzero⟩

/-- The first request of the queue is handled. -/
theorem next (h : Ledger m sent done) (hr : m.phase = .running) {c : Command} {cs : List Command}
    (hc : m.commands = c :: cs) {m' : Machine} (hc' : m'.commands = cs)
    (hr' : m'.phase = .running) : Ledger m' sent (done ++ [c]) := by
  have hsent : sent = (done ++ [c]) ++ cs := by
    rw [h.queued (by simp [hr]), hc, List.append_assoc]
    rfl
  refine ⟨fun _ => ?_, ?_, fun he => ?_⟩
  · rw [hc']
    exact hsent
  · rw [hsent]
    exact List.prefix_append _ _
  · rw [hr'] at he
    cases he

/-- A machine with nothing queued may stop. -/
theorem stop (h : Ledger m sent done) (hr : m.phase = .running) (hc : m.commands = []) :
    Ledger m.stopIfDeserted.1 sent done := by
  unfold stopIfDeserted
  split
  · rename_i hz
    exact ⟨fun _ => h.queued (by simp [hr]), h.inOrder, fun _ => ⟨hc, hz⟩⟩
  · exact h

/-- A machine that does not run loses what it has queued, and a request only by an abort. -/
theorem emptied (h : Ledger m sent done) (hr : m.phase ≠ .running) :
    Ledger m.emptied sent done := by
  refine ⟨fun hna => ?_, h.inOrder, fun he => ⟨rfl, (h.deserted he).2⟩⟩
  have hended : m.phase = .ended := by
    cases hp : m.phase with
    | running => exact absurd hp hr
    | ended => rfl
    | aborted => exact absurd hp hna
  rw [h.queued hna, (h.deserted hended).1]
  rfl

/-- No request is handled. -/
theorem idle (h : Ledger m sent done) : Ledger m sent (done ++ []) := by
  rw [List.append_nil]
  exact h

theorem take (h : Ledger m sent done) (b : Branch) :
    Ledger (m.take b).1 sent (done ++ (m.take b).2.command?.toList) := by
  by_cases hr : m.phase = .running
  · cases b with
    | request =>
      cases hc : m.commands with
      | nil =>
        rw [take_request_nil hr hc]
        exact (h.stop hr hc).idle
      | cons c cs =>
        rw [take_request hr hc]
        exact h.next hr hc rfl hr
    | completion =>
      cases hc : m.completions with
      | nil =>
        rw [take_completion_nil hr hc]
        exact h.idle
      | cons c cs =>
        rw [take_completion hr hc]
        exact idle (h.congr rfl rfl id)
    | timer =>
      rw [take_timer hr]
      split
      · exact idle (h.congr rfl rfl id)
      · exact h.idle
  · rw [take_of_not_running hr]
    exact (h.emptied hr).idle

theorem takeAll (h : Ledger m sent done) (bs : List Branch) :
    Ledger (m.takeAll bs).1 sent (done ++ handled (m.takeAll bs).2) := by
  induction bs generalizing m done with
  | nil => exact h.idle
  | cons b bs ih =>
    rw [Machine.takeAll, handled_cons, ← List.append_assoc]
    exact ih (h.take b)

/-! ## What happens outside -/

theorem send (h : Ledger m sent done) (c : Command) :
    Ledger (m.happen (.send c)).1 (sent ++ (m.accepted? (.outside (.send c))).toList) done := by
  by_cases hr : m.phase = .running
  · have haccepted : m.accepted? (.outside (.send c)) = some c := by
      simp [accepted?, Machine.send, isRunning_of_running hr, Except.toOption]
    rw [send_of_running hr, haccepted]
    refine ⟨fun _ => ?_, h.inOrder.trans (List.prefix_append _ _), fun he => ?_⟩
    · rw [h.queued (by simp [hr]), List.append_assoc]
      rfl
    · rw [hr] at he
      cases he
  · have hrefused : m.accepted? (.outside (.send c)) = none := by
      simp [accepted?, Machine.send, isRunning, hr, Except.toOption]
    rw [send_of_not_running hr, hrefused]
    exact (List.append_nil sent).symm ▸ h

theorem abort (h : Ledger m sent done) : Ledger m.abort sent done := by
  unfold Machine.abort
  split
  · exact ⟨fun hna => absurd rfl hna, h.inOrder, nofun⟩
  · exact h

/-- Whatever happens, the ledger is kept. -/
theorem act (h : Ledger m sent done) (a : Act) :
    Ledger (m.act a).1 (sent ++ (m.accepted? a).toList) (done ++ handled (m.act a).2) := by
  -- what is not a request is accepted as none
  have hnone : m.accepted? a = none → ∀ {m' d}, Ledger m' sent d →
      Ledger m' (sent ++ (m.accepted? a).toList) d := by
    intro hn m' d h'
    rw [hn]
    exact (List.append_nil sent).symm ▸ h'
  cases a with
  | branch b => exact hnone rfl (h.takeAll [b])
  | outside k =>
    obtain hk | ⟨ms, rfl⟩ | rfl | ⟨c, rfl⟩ | rfl := k.cases_quiet
    · obtain ⟨hact, hn⟩ := act_of_isQuiet hk m
      obtain ⟨hcalm, -⟩ := calm_of_isQuiet hk m
      apply hnone hn
      rw [hact]
      refine idle (h.congr hcalm.commands hcalm.phase fun hz => ?_)
      exact Nat.eq_zero_of_not_pos fun hpos => absurd hz (Nat.ne_of_gt (hcalm.handles hpos))
    · exact hnone rfl (idle (h.congr rfl rfl id))
    · exact hnone rfl (h.takeAll m.schedule)
    · exact (h.send c).idle
    · exact hnone rfl h.abort.idle

theorem actAll (h : Ledger m sent done) (as : List Act) :
    Ledger (m.actAll as).1 (sent ++ m.accepted as) (done ++ handled (m.actAll as).2) := by
  induction as generalizing m sent done with
  | nil =>
    rw [accepted, List.append_nil]
    exact h.idle
  | cons a as ih =>
    rw [accepted, Machine.actAll, handled_append, ← List.append_assoc, ← List.append_assoc]
    exact ih (h.act a)

end Ledger

theorem ledger_start (settings : Settings) : Ledger (start settings).1 [] [] := by
  unfold start
  split
  · exact ⟨fun _ => rfl, List.prefix_refl [], nofun⟩
  · exact ⟨fun _ => rfl, List.prefix_refl [], nofun⟩

theorem ledger_played (settings : Settings) (as : List Act) :
    Ledger (played settings as).1 ((start settings).1.accepted as)
      (handled (played settings as).2) :=
  (ledger_start settings).actAll as

/-! ## After the end -/

/-- The controller is where it was, and has made no call. -/
structure Still (m m' : Machine) : Prop where
  state : m'.state = m.state
  phase : m'.phase = m.phase
  calls : m'.calls = m.calls

namespace Still

theorem refl (m : Machine) : Still m m := ⟨rfl, rfl, rfl⟩

theorem trans {m₁ m₂ m₃ : Machine} (h : Still m₁ m₂) (h' : Still m₂ m₃) : Still m₁ m₃ :=
  ⟨h'.state.trans h.state, h'.phase.trans h.phase, h'.calls.trans h.calls⟩

end Still

/-- The controller does not act between its turns. -/
theorem still_of_isQuiet {k : Happening} (hk : k.isQuiet = true) (m : Machine) :
    Still m (m.happen k).1 := by
  obtain ⟨hcalm, -⟩ := calm_of_isQuiet hk m
  refine ⟨hcalm.state, hcalm.phase, ?_⟩
  cases k with
  | addHandle =>
    show m.addHandle.calls = m.calls
    unfold addHandle
    split <;> rfl
  | report n percents =>
    show (m.report n percents).calls = m.calls
    unfold report
    split <;> rfl
  | replySearch n result =>
    show (m.replySearch n result).calls = m.calls
    unfold replySearch
    split <;> rfl
  | replyOperation n result =>
    show (m.replyOperation n result).calls = m.calls
    unfold replyOperation
    split <;> rfl
  | dropHandle => rfl
  | _ => contradiction

theorem takeAll_still (h : m.phase ≠ .running) (bs : List Branch) :
    Still m (m.takeAll bs).1 ∧ effects (m.takeAll bs).2 = [] := by
  cases bs with
  | nil => exact ⟨.refl m, rfl⟩
  | cons b bs =>
    rw [takeAll_of_not_running h]
    exact ⟨⟨rfl, rfl, rfl⟩, effects_idle _⟩

/-- Once the loop is over, nothing that happens has an effect. -/
theorem act_still (h : m.phase ≠ .running) (a : Act) :
    Still m (m.act a).1 ∧ effects (m.act a).2 = [] := by
  cases a with
  | branch b => exact takeAll_still h [b]
  | outside k =>
    obtain hk | ⟨ms, rfl⟩ | rfl | ⟨c, rfl⟩ | rfl := k.cases_quiet
    · rw [(act_of_isQuiet hk m).1]
      exact ⟨still_of_isQuiet hk m, rfl⟩
    · exact ⟨⟨rfl, rfl, rfl⟩, rfl⟩
    · exact takeAll_still h m.schedule
    · have hsend : (m.act (.outside (.send c))).1 = m := send_of_not_running h c
      rw [hsend]
      exact ⟨.refl m, rfl⟩
    · have habort : (m.act (.outside .abort)).1 = m := by
        show m.abort = m
        unfold abort
        split
        · contradiction
        · rfl
      rw [habort]
      exact ⟨.refl m, rfl⟩

theorem actAll_still (h : m.phase ≠ .running) (as : List Act) :
    Still m (m.actAll as).1 ∧ effects (m.actAll as).2 = [] := by
  induction as generalizing m with
  | nil => exact ⟨.refl m, rfl⟩
  | cons a as ih =>
    obtain ⟨hstill, hnone⟩ := act_still h a
    obtain ⟨hrest, hnone'⟩ := ih (hstill.phase ▸ h)
    refine ⟨hstill.trans hrest, ?_⟩
    rw [actAll, effects_append, hnone, hnone']
    rfl

/-! ## The end -/

/-- A machine without a handle has only to take its requests to end. -/
theorem takeAll_ends (h : m.phase = .running) (hz : m.handles = 0) :
    (m.takeAll (List.replicate (m.commands.length + 1) .request)).1.phase = .ended := by
  have hrequests := (isQueue_commands.takeAll h m.commands).1
  generalize hn : (m.handleAll (m.commands.map (.command · m.now))).1 = n at hrequests
  have hphase : n.phase = .running := by
    rw [← hn, handleAll_keeps (·.phase) (fun _ _ _ => rfl)]
    exact h
  have hhandles : n.handles = 0 := by
    rw [← hn, handleAll_keeps (·.handles) (fun _ _ _ => rfl)]
    exact hz
  rw [List.replicate_succ', takeAll_append, hrequests, takeAll, takeAll,
    take_request_nil (m := { n with commands := [] }) hphase rfl, stopIfDeserted, if_pos hhandles]

/-- How a controller stops, given all that has happened to it. -/
structure StopsCleanly (settings : Settings) (as : List Act) : Prop where
  /-- While there is a handle, every request is accepted. -/
  accepts : (played settings as).1.Alive → ∀ c, ∃ m', (played settings as).1.send c = .ok m'
  /-- Requests are handled in the order of sending, and at the end all of them have been. -/
  inOrder : handled (played settings as).2 <+: (start settings).1.accepted as
  complete : (played settings as).1.phase = .ended →
    handled (played settings as).2 = (start settings).1.accepted as
  /-- Without a handle the loop ends once it has taken its requests, and never with one. -/
  ends : (played settings as).1.phase = .running → (played settings as).1.handles = 0 →
    ((played settings as).1.takeAll
      (List.replicate ((played settings as).1.commands.length + 1) .request)).1.phase = .ended
  deserted : (played settings as).1.phase = .ended → (played settings as).1.handles = 0
  /-- From then on the controller does nothing. -/
  still : (played settings as).1.phase ≠ .running → ∀ later,
    Still (played settings as).1 ((played settings as).1.actAll later).1 ∧
      effects ((played settings as).1.actAll later).2 = []

/-- **Stopping is clean and final**, in whatever order the branches of the loop are taken. -/
theorem stops_cleanly (settings : Settings) (as : List Act) : StopsCleanly settings as := by
  have hledger := ledger_played settings as
  refine ⟨fun halive c => ?_, hledger.inOrder, fun he => ?_, takeAll_ends,
    fun he => (hledger.deserted he).2, actAll_still⟩
  · have hr : (played settings as).1.phase = .running := by
      cases hp : (played settings as).1.phase with
      | running => rfl
      | ended => exact absurd (hledger.deserted hp).2 (Nat.ne_of_gt halive.2)
      | aborted => exact absurd hp halive.1
    rw [send, isRunning_of_running hr]
    exact ⟨_, rfl⟩
  · rw [hledger.queued (by simp [he]), (hledger.deserted he).1, List.append_nil]

/-- Two requests through two handles, both dropped before the second request is handled. The timer
of the search expires in vain, and the call of the start is answered in vain. -/
example :
    let acts : List Act :=
      [.outside .addHandle, .outside (.send (.search "a")), .branch .request, .outside .dropHandle,
        .outside (.send (.operate .install "x")), .outside .dropHandle, .branch .timer,
        .branch .request, .branch .request]
    let later : List Act :=
      [.outside (.replySearch 0 (.ok [])), .outside (.advance 9), .branch .completion,
        .branch .timer]
    let m := (played ⟨⟨"http", none, "/", none, none⟩, 3, true⟩ acts).1
    m.phase = .ended ∧ m.state.waiting = some ⟨3, "a"⟩ ∧
      handled (played m.settings acts).2 = [.search "a", .operate .install "x"] ∧
      (m.actAll later).1.state = m.state ∧ effects (m.actAll later).2 = [] := by
  decide

end Machine

end ExtensionCatalogue.Sync
