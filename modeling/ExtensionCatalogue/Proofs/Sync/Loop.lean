import ExtensionCatalogue.Proofs.Sync.Machine

/-!
# The loop of the controller

A machine that settles handles its requests first, then its completions, and its timer last. The
loop of the controller promises no such order: each turn takes any of its branches that is ready.
Here a machine is played turn by turn, the branches in whatever order, while things happen outside.
To settle is one such order (`settle_eq`), so what holds of a machine played like this holds of
every history.
-/

namespace ExtensionCatalogue.Sync

/-- What the loop chooses from. -/
inductive Branch where
  | request
  | completion
  | timer
  deriving DecidableEq, Repr

/-- What happens to a machine, its loop included. -/
inductive Act where
  | outside (h : Happening)
  | branch (b : Branch)

/-- What the controller has done in some turns. -/
def effects (ts : List Turn) : List Effect := ts.flatMap (·.effects)

@[simp] theorem effects_nil : effects [] = [] := rfl

@[simp] theorem effects_cons (t : Turn) (ts : List Turn) :
    effects (t :: ts) = t.effects ++ effects ts := rfl

@[simp] theorem effects_append (ts us : List Turn) :
    effects (ts ++ us) = effects ts ++ effects us := List.flatMap_append

namespace Machine

/-- A turn that handles an input. -/
def turn (m : Machine) (i : Input) : Machine × Turn :=
  ((m.handle i).1, ⟨some i, (m.handle i).2⟩)

/-- A turn of the loop. The branch of the requests ends the loop once there is neither a request nor
a handle, a branch that is not ready does nothing, and what is queued after the end is lost. -/
def take (m : Machine) (b : Branch) : Machine × Turn :=
  if m.isRunning then
    match b with
    | .request =>
      match m.commands with
      | c :: cs => { m with commands := cs }.turn (.command c m.now)
      | [] => (m.stopIfDeserted.1, ⟨none, m.stopIfDeserted.2⟩)
    | .completion =>
      match m.completions with
      | c :: cs => { m with completions := cs }.turn (.completion c)
      | [] => (m, ⟨none, []⟩)
    | .timer => if m.isDue then m.turn .expiry else (m, ⟨none, []⟩)
  else (m.emptied, ⟨none, []⟩)

def takeAll (m : Machine) : List Branch → Machine × List Turn
  | [] => (m, [])
  | b :: bs => (((m.take b).1.takeAll bs).1, (m.take b).2 :: ((m.take b).1.takeAll bs).2)

/-- The order in which a machine settles. -/
def schedule (m : Machine) : List Branch :=
  List.replicate m.commands.length .request ++
    (List.replicate m.completions.length .completion ++ [.timer, .request])

def act (m : Machine) : Act → Machine × List Turn
  | .branch b => m.takeAll [b]
  | .outside .settle => m.takeAll m.schedule
  | .outside h => ((m.happen h).1, [])

def actAll (m : Machine) : List Act → Machine × List Turn
  | [] => (m, [])
  | a :: as => (((m.act a).1.actAll as).1, (m.act a).2 ++ ((m.act a).1.actAll as).2)

/-- A new machine after all that has happened to it, and its turns, of which the first is the
start. -/
def played (settings : Settings) (as : List Act) : Machine × List Turn :=
  (((start settings).1.actAll as).1, ⟨none, (start settings).2⟩ :: ((start settings).1.actAll as).2)

variable {m : Machine}

/-! ## Turns -/

theorem isRunning_of_running (h : m.phase = .running) : m.isRunning = true := by
  rw [isRunning, h]
  rfl

theorem take_of_not_running (h : m.phase ≠ .running) (b : Branch) :
    m.take b = (m.emptied, ⟨none, []⟩) := by
  have hstopped : m.isRunning = false := beq_eq_false_iff_ne.2 h
  unfold take
  rw [hstopped]
  rfl

theorem take_request (h : m.phase = .running) {c : Command} {cs : List Command}
    (hc : m.commands = c :: cs) :
    m.take .request = { m with commands := cs }.turn (.command c m.now) := by
  unfold take
  rw [isRunning_of_running h]
  simp only [hc, if_true]

theorem take_request_nil (h : m.phase = .running) (hc : m.commands = []) :
    m.take .request = (m.stopIfDeserted.1, ⟨none, m.stopIfDeserted.2⟩) := by
  unfold take
  rw [isRunning_of_running h]
  simp only [hc, if_true]

theorem take_completion (h : m.phase = .running) {c : Completion} {cs : List Completion}
    (hc : m.completions = c :: cs) :
    m.take .completion = { m with completions := cs }.turn (.completion c) := by
  unfold take
  rw [isRunning_of_running h]
  simp only [hc, if_true]

theorem take_completion_nil (h : m.phase = .running) (hc : m.completions = []) :
    m.take .completion = (m, ⟨none, []⟩) := by
  unfold take
  rw [isRunning_of_running h]
  simp only [hc, if_true]

theorem take_timer (h : m.phase = .running) :
    m.take .timer = if m.isDue then m.turn .expiry else (m, ⟨none, []⟩) := by
  unfold take
  rw [isRunning_of_running h]
  exact if_pos rfl

theorem take_timer_eq (h : m.phase = .running) :
    (m.take .timer).1 = m.expireIfDue.1 ∧ (m.take .timer).2.effects = m.expireIfDue.2 := by
  rw [take_timer h]
  unfold expireIfDue
  split
  · exact ⟨rfl, rfl⟩
  · exact ⟨rfl, rfl⟩

theorem takeAll_append (m : Machine) (bs ds : List Branch) :
    m.takeAll (bs ++ ds) =
      (((m.takeAll bs).1.takeAll ds).1, (m.takeAll bs).2 ++ ((m.takeAll bs).1.takeAll ds).2) := by
  induction bs generalizing m with
  | nil => rfl
  | cons b bs ih => rw [List.cons_append, takeAll, takeAll, ih, List.cons_append]

/-! ## To settle is one order of turns -/

/-- A queue of a machine and the branch of the loop that takes from it: `put` replaces what is
queued, and `input` is the input that a turn makes of an item and the time of day. -/
structure IsQueue {α : Type} (put : Machine → List α → Machine) (b : Branch)
    (input : Nat → α → Input) : Prop where
  handle : ∀ m xs i, (put m xs).handle i = (put (m.handle i).1 xs, (m.handle i).2)
  take : ∀ m x xs, m.phase = .running → (put m (x :: xs)).take b = (put m xs).turn (input m.now x)

namespace IsQueue

variable {α : Type} {put : Machine → List α → Machine} {b : Branch} {input : Nat → α → Input}

/-- What is queued does not matter to the handling of inputs. -/
theorem handleAll (hput : IsQueue put b input) (m : Machine) (xs : List α) (is : List Input) :
    (put m xs).handleAll is = (put (m.handleAll is).1 xs, (m.handleAll is).2) := by
  induction is generalizing m with
  | nil => rfl
  | cons i is ih => simp only [Machine.handleAll, hput.handle, ih]

/-- A queue, turn by turn. -/
theorem takeAll (hput : IsQueue put b input) (h : m.phase = .running) (xs : List α) :
    ((put m xs).takeAll (List.replicate xs.length b)).1 =
        put (m.handleAll (xs.map (input m.now))).1 [] ∧
      effects ((put m xs).takeAll (List.replicate xs.length b)).2 =
        (m.handleAll (xs.map (input m.now))).2 := by
  induction xs generalizing m with
  | nil => exact ⟨rfl, rfl⟩
  | cons x xs ih =>
    -- the time is the same after the turn
    obtain ⟨hm, hes⟩ := ih (m := (m.handle (input m.now x)).1) h
    rw [List.length_cons, List.replicate_succ, Machine.takeAll, hput.take m x xs h, turn,
      hput.handle, effects_cons]
    exact ⟨hm, congrArg ((m.handle (input m.now x)).2 ++ ·) hes⟩

end IsQueue

theorem isQueue_commands :
    IsQueue (fun m cs => { m with commands := cs }) .request fun now c => .command c now where
  handle _ _ _ := rfl
  take m c cs h := take_request (m := { m with commands := c :: cs }) h rfl

theorem isQueue_completions :
    IsQueue (fun m cs => { m with completions := cs }) .completion fun _ c => .completion c where
  handle _ _ _ := rfl
  take m c cs h := take_completion (m := { m with completions := c :: cs }) h rfl

theorem emptied_handleAll (m : Machine) (is : List Input) :
    m.emptied.handleAll is = ((m.handleAll is).1.emptied, (m.handleAll is).2) := by
  have hemptied : m.emptied = { ({ m with commands := [] } : Machine) with completions := [] } := rfl
  rw [hemptied, isQueue_completions.handleAll, isQueue_commands.handleAll]
  rfl

/-- What a running machine has queued, turn by turn. -/
theorem takeAll_queue (h : m.phase = .running) :
    (m.takeAll (List.replicate m.commands.length .request ++
        List.replicate m.completions.length .completion)).1 = (m.emptied.handleAll m.queue).1 ∧
      effects (m.takeAll (List.replicate m.commands.length .request ++
        List.replicate m.completions.length .completion)).2 = (m.emptied.handleAll m.queue).2 := by
  obtain ⟨hm, hes⟩ := isQueue_commands.takeAll h m.commands
  -- the machine that has handled its requests: its completions are still those of `m`
  have hkept : (m.handleAll (m.commands.map (.command · m.now))).1.phase = .running ∧
      (m.handleAll (m.commands.map (.command · m.now))).1.completions = m.completions := by
    rw [handleAll_keeps (·.phase) (fun _ _ _ => rfl),
      handleAll_keeps (·.completions) (fun _ _ _ => rfl)]
    exact ⟨h, rfl⟩
  generalize hn : (m.handleAll (m.commands.map (.command · m.now))).1 = n at hm hkept
  obtain ⟨hm', hes'⟩ := isQueue_completions.takeAll
    (m := { n with commands := [] }) hkept.1 n.completions
  rw [isQueue_commands.handleAll] at hm' hes'
  rw [takeAll_append, hm, effects_append, hes, emptied_handleAll, queue, handleAll_append, hn,
    ← hkept.2, hm', hes']
  exact ⟨rfl, rfl⟩

theorem takeAll_schedule_of_running (h : m.phase = .running) :
    (m.takeAll m.schedule).1 = m.settle.1 ∧ effects (m.takeAll m.schedule).2 = m.settle.2 := by
  obtain ⟨hm, hes⟩ := takeAll_queue h
  generalize hn : (m.emptied.handleAll m.queue).1 = n at hm
  have hphase : n.phase = .running := by
    rw [← hn, handleAll_keeps (·.phase) (fun _ _ _ => rfl)]
    exact h
  obtain ⟨htimer, htimes⟩ := take_timer_eq hphase
  have hserved : n.expireIfDue.1.phase = .running ∧ n.expireIfDue.1.commands = [] := by
    rw [expireIfDue_keeps (·.phase) (fun _ _ _ => rfl),
      expireIfDue_keeps (·.commands) (fun _ _ _ => rfl), ← hn,
      handleAll_keeps (·.commands) (fun _ _ _ => rfl), hn]
    exact ⟨hphase, rfl⟩
  rw [schedule, ← List.append_assoc, takeAll_append, hm, effects_append, hes, settle_of_running h,
    served, hn, takeAll, takeAll, takeAll, htimer, take_request_nil hserved.1 hserved.2]
  simp [htimes, List.append_assoc]

/-- A machine that does not run takes idle turns. -/
theorem takeAll_of_not_running (h : m.phase ≠ .running) (b : Branch) (bs : List Branch) :
    m.takeAll (b :: bs) = (m.emptied, List.replicate (bs.length + 1) ⟨none, []⟩) := by
  induction bs generalizing m b with
  | nil =>
    rw [takeAll, takeAll, take_of_not_running h]
    rfl
  | cons d bs ih =>
    have hemptied : m.emptied.phase ≠ .running := h
    rw [takeAll, take_of_not_running h, ih hemptied]
    rfl

theorem effects_idle (n : Nat) : effects (List.replicate n ⟨none, []⟩) = [] := by
  induction n with
  | zero => rfl
  | succ n ih => rw [List.replicate_succ, effects_cons, ih, List.append_nil]

/-- **To settle is one order of turns.** -/
theorem settle_eq (m : Machine) :
    m.settle = ((m.takeAll m.schedule).1, effects (m.takeAll m.schedule).2) := by
  by_cases h : m.phase = .running
  · obtain ⟨hm, hes⟩ := takeAll_schedule_of_running h
    rw [hm, hes]
  · cases hs : m.schedule with
    | nil => simp [schedule] at hs
    | cons b bs => rw [settle_of_not_running h, takeAll_of_not_running h, effects_idle]

theorem happen_eq (m : Machine) (h : Happening) :
    m.happen h = ((m.act (.outside h)).1, effects (m.act (.outside h)).2) := by
  cases h with
  | settle => exact m.settle_eq
  | _ => rfl

theorem happenAll_eq (m : Machine) (hs : List Happening) :
    m.happenAll hs = ((m.actAll (hs.map .outside)).1, effects (m.actAll (hs.map .outside)).2) := by
  induction hs generalizing m with
  | nil => rfl
  | cons h hs ih =>
    have hcons : m.happenAll (h :: hs) = (((m.happen h).1.happenAll hs).1,
        (m.happen h).2 ++ ((m.happen h).1.happenAll hs).2) := rfl
    rw [hcons, m.happen_eq, ih, List.map_cons, actAll, effects_append]

/-- Every history of a machine is played turn by turn. -/
theorem history_eq (settings : Settings) (hs : List Happening) :
    history settings hs =
      ((played settings (hs.map .outside)).1, effects (played settings (hs.map .outside)).2) := by
  have hhistory : history settings hs = (((start settings).1.happenAll hs).1,
      (start settings).2 ++ ((start settings).1.happenAll hs).2) := rfl
  rw [hhistory, happenAll_eq, played, effects_cons]

end Machine

end ExtensionCatalogue.Sync
