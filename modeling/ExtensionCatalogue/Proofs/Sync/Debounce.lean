import ExtensionCatalogue.Proofs.Sync.Clock

/-!
# The debounce of searches

The searches that a machine with a ticking clock makes, and their times, depend on the search
requests only: apart from the search at the start they are those that are `due`. The invariant is
`Punctual`: what the controller waits for, once it has handled what is queued, is what is `awaited`.
-/

namespace ExtensionCatalogue.Sync

/-- The search made at the start. -/
def Settings.load (settings : Settings) : List Search :=
  if settings.initialLoad then [⟨0, ""⟩] else []

/-! ## What is searched -/

/-- The searches among the effects at one time. -/
def searches (now : Nat) (es : List Effect) : List Search :=
  (calls es).filterMap fun
    | .search _ keyword => some ⟨now, keyword⟩
    | .operation _ _ => none

@[simp] theorem searches_nil (now : Nat) : searches now [] = [] := rfl

@[simp] theorem searches_append (now : Nat) (es fs : List Effect) :
    searches now (es ++ fs) = searches now es ++ searches now fs := by
  simp [searches]

namespace Machine

/-- The searches made while all this happens. -/
def searchesIn (m : Machine) : List Happening → List Search
  | [] => []
  | h :: hs => searches m.now (m.happen h).2 ++ (m.happen h).1.searchesIn hs

/-- A new machine, with a clock that ticks, after all that has happened to it. -/
def timed (settings : Settings) (hs : List Happening) : Machine :=
  (history settings (hs.flatMap Happening.ticking)).1

/-- The searches that this machine has made. -/
def timedSearches (settings : Settings) (hs : List Happening) : List Search :=
  searches 0 (start settings).2 ++ (start settings).1.searchesIn (hs.flatMap Happening.ticking)

theorem searchesIn_append (m : Machine) (hs ks : List Happening) :
    m.searchesIn (hs ++ ks) = m.searchesIn hs ++ (m.happenAll hs).1.searchesIn ks := by
  induction hs generalizing m with
  | nil => rfl
  | cons h hs ih =>
    rw [List.cons_append, searchesIn, ih, ← List.append_assoc]
    rfl

end Machine

/-! ## The timer of a machine -/

/-- What an input makes the controller wait for, if it is a search request. -/
def Input.waiting? (debounce : Nat) : Input → Option Waiting
  | .command (.search keyword) now => some ⟨now + debounce, keyword⟩
  | _ => none

/-- Only the expiry of the timer makes a search, and otherwise only search requests set it. -/
theorem State.Rule.waiting {debounce now : Nat} {s t : State} {i : Input} {es : List Effect}
    (h : s.Rule debounce i t es) (hi : i ≠ .expiry) :
    searches now es = [] ∧ t.waiting = (i.waiting? debounce).or s.waiting := by
  cases h with
  | fire w hw => exact absurd rfl hi
  | idle hw => exact absurd rfl hi
  | _ => simp [searches, Input.waiting?, State.replaced, State.succeeded]

namespace Machine

variable {m : Machine}

/-- What the controller will wait for once it has handled the requests queued. -/
def heeded (m : Machine) : Option Waiting :=
  (lastWaiting m.settings.debounce (m.commands.filterMap (·.request? m.now))).or m.state.waiting

theorem handle_waiting (m : Machine) (now : Nat) {i : Input} (hi : i ≠ .expiry) :
    searches now (m.handle i).2 = [] ∧
      (m.handle i).1.state.waiting = (i.waiting? m.settings.debounce).or m.state.waiting :=
  (State.rule_step m.settings.debounce m.state i).waiting hi

/-- A request in front counts if no search request follows. -/
theorem lastWaiting_cons (debounce now : Nat) (c : Command) (cs : List Command) :
    lastWaiting debounce ((c :: cs).filterMap (·.request? now)) =
      (lastWaiting debounce (cs.filterMap (·.request? now))).or
        ((Input.command c now).waiting? debounce) := by
  cases c with
  | search keyword => exact lastWaiting_append debounce [⟨now, keyword⟩] _
  | operate operation id => exact Option.or_none.symm

theorem handleAll_commands (m : Machine) (now : Nat) (cs : List Command) :
    searches now (m.handleAll (cs.map (.command · now))).2 = [] ∧
      (m.handleAll (cs.map (.command · now))).1.state.waiting =
        (lastWaiting m.settings.debounce (cs.filterMap (·.request? now))).or m.state.waiting := by
  induction cs generalizing m with
  | nil => exact ⟨rfl, rfl⟩
  | cons c cs ih =>
    have hc : Input.command c now ≠ .expiry := nofun
    obtain ⟨hs, hw⟩ := m.handle_waiting now hc
    obtain ⟨hss, hws⟩ := ih (m.handle (.command c now)).1
    refine ⟨?_, hws.trans ?_⟩
    · rw [List.map_cons, handleAll, searches_append, hs, hss]
      rfl
    · rw [hw, lastWaiting_cons, Option.or_assoc]
      rfl

theorem handleAll_completions (m : Machine) (now : Nat) (cs : List Completion) :
    searches now (m.handleAll (cs.map .completion)).2 = [] ∧
      (m.handleAll (cs.map .completion)).1.state.waiting = m.state.waiting := by
  induction cs generalizing m with
  | nil => exact ⟨rfl, rfl⟩
  | cons c cs ih =>
    have hc : Input.completion c ≠ .expiry := nofun
    obtain ⟨hs, hw⟩ := m.handle_waiting now hc
    obtain ⟨hss, hws⟩ := ih (m.handle (.completion c)).1
    refine ⟨?_, hws.trans hw⟩
    rw [List.map_cons, handleAll, searches_append, hs, hss]
    rfl

theorem handle_expiry {w : Waiting} (hw : m.state.waiting = some w) (now : Nat) :
    searches now (m.handle .expiry).2 = [⟨now, Text.trim w.keyword⟩] ∧
      (m.handle .expiry).1.state.waiting = none := by
  have hexpire : m.state.step m.settings.debounce .expiry =
      ({ m.state with waiting := none }).fire w.keyword := by
    simp only [State.step, State.expire, hw]
  simp [handle, absorb, hexpire, State.fire, searches]

theorem expireIfDue_waiting (m : Machine) :
    searches m.now m.expireIfDue.2 = expired m.now m.state.waiting ∧
      m.expireIfDue.1.state.waiting = m.state.waiting.filter (m.now < ·.deadline) := by
  unfold expireIfDue isDue expired
  cases hw : m.state.waiting with
  | none => exact ⟨rfl, hw⟩
  | some w =>
    by_cases hdue : w.deadline ≤ m.now
    · obtain ⟨hs, hnone⟩ := handle_expiry hw m.now
      simp [hdue, Option.filter_some, Nat.not_lt.2 hdue, hs, hnone]
    · simp [hdue, Option.filter_some, Nat.lt_of_not_le hdue, hw]

theorem searches_stopIfDeserted (m : Machine) (now : Nat) :
    searches now m.stopIfDeserted.2 = [] := by
  unfold stopIfDeserted
  split <;> rfl

theorem handleAll_queue (m : Machine) :
    searches m.now (m.emptied.handleAll m.queue).2 = [] ∧
      (m.emptied.handleAll m.queue).1.state.waiting = m.heeded := by
  obtain ⟨hs, hw⟩ := m.emptied.handleAll_commands m.now m.commands
  obtain ⟨hs', hw'⟩ :=
    (m.emptied.handleAll (m.commands.map (.command · m.now))).1.handleAll_completions m.now
      m.completions
  rw [queue, handleAll_append, searches_append, hs, hs']
  exact ⟨rfl, hw'.trans hw⟩

theorem served_waiting (m : Machine) :
    searches m.now m.served.2 = expired m.now m.heeded ∧
      m.served.1.state.waiting = m.heeded.filter (m.now < ·.deadline) := by
  obtain ⟨hs, hw⟩ := m.handleAll_queue
  obtain ⟨hs', hw'⟩ := (m.emptied.handleAll m.queue).1.expireIfDue_waiting
  have hnow : (m.emptied.handleAll m.queue).1.now = m.now :=
    handleAll_keeps (·.now) (fun _ _ _ => rfl) m.emptied m.queue
  rw [hnow, hw] at hs' hw'
  rw [served, searches_append, hs, hs']
  exact ⟨rfl, hw'⟩

/-- What a running machine searches when it settles, and what it waits for then. -/
theorem settle_waiting (hr : m.phase = .running) :
    searches m.now m.settle.2 = expired m.now m.heeded ∧
      m.settle.1.state.waiting = m.heeded.filter (m.now < ·.deadline) := by
  obtain ⟨hs, hw⟩ := m.served_waiting
  rw [settle_of_running hr, searches_append, hs, searches_stopIfDeserted, List.append_nil,
    stopIfDeserted_keeps (·.state) (fun _ => rfl)]
  exact ⟨rfl, hw⟩

theorem Calm.heeded {m' : Machine} (h : Calm m m') : m'.heeded = m.heeded := by
  rw [Machine.heeded, Machine.heeded, h.settings, h.commands, h.now, h.state]

theorem heeded_of_idle (h : m.commands = []) : m.heeded = m.state.waiting := by
  rw [heeded, h]
  rfl

end Machine

/-! ## Punctual machines -/

/-- A running machine that waits for the search of the requests sent so far, if it is still to come,
and has made those that were due. -/
structure Punctual (settings : Settings) (m : Machine) (rs made : List Search) : Prop where
  same : m.settings = settings
  running : m.phase = .running
  heeded : m.heeded = awaited settings.debounce m.now rs
  past : ∀ r ∈ rs, r.time ≤ m.now
  made : made = settings.load ++ due settings.debounce m.now rs

namespace Punctual

variable {settings : Settings} {m : Machine} {rs made : List Search}

/-- Nothing has changed that matters to the timer. -/
theorem congr {m' : Machine} (h : Punctual settings m rs made)
    (hs : m'.settings = m.settings) (hp : m'.phase = m.phase) (hn : m'.now = m.now)
    (hh : m'.heeded = m.heeded) : Punctual settings m' rs made :=
  ⟨hs.trans h.same, hp.trans h.running, by rw [hh, hn, h.heeded], hn ▸ h.past, hn ▸ h.made⟩

theorem settle (h : Punctual settings m rs made) (hh : 0 < m.handles) :
    Punctual settings m.settle.1 rs (made ++ searches m.now m.settle.2) := by
  obtain ⟨hs, hw⟩ := Machine.settle_waiting h.running
  rw [h.heeded] at hs hw
  have hidle : m.settle.1.heeded = m.heeded := by
    rw [Machine.heeded_of_idle m.settle_commands, hw, filter_awaited (Nat.le_refl _), h.heeded]
  rw [hs, expired_awaited, List.append_nil]
  exact h.congr m.settle_settings ((Machine.settle_running h.running hh).trans h.running.symm)
    m.settle_now hidle

/-- The clock of an idle machine moves by one, and the timer expires if its deadline is reached. -/
theorem advance (h : Punctual settings m rs made) (hh : 0 < m.handles) (hidle : m.commands = []) :
    Punctual settings (m.advance 1).settle.1 rs
      (made ++ searches (m.now + 1) (m.advance 1).settle.2) := by
  have hr : (m.advance 1).phase = .running := h.running
  have hheeded : (m.advance 1).heeded = awaited settings.debounce m.now rs := by
    have hidle' : (m.advance 1).commands = [] := hidle
    rw [Machine.heeded_of_idle hidle', ← h.heeded, Machine.heeded_of_idle hidle]
    rfl
  obtain ⟨hs, hw⟩ := Machine.settle_waiting hr
  rw [hheeded] at hs hw
  have hnow : (m.advance 1).settle.1.now = m.now + 1 := (m.advance 1).settle_now
  refine ⟨(m.advance 1).settle_settings.trans h.same, Machine.settle_running hr hh, ?_, ?_, ?_⟩
  · rw [Machine.heeded_of_idle (m.advance 1).settle_commands, hw, hnow]
    exact filter_awaited (Nat.le_succ m.now) settings.debounce rs
  · exact fun r hr => hnow ▸ Nat.le_succ_of_le (h.past r hr)
  · rw [hnow, due_succ settings.debounce h.past, ← List.append_assoc, ← h.made]
    exact congrArg (made ++ ·) hs

theorem ticked (h : Punctual settings m rs made) (hh : 0 < m.handles) :
    Punctual settings (m.happenAll tick).1 rs (made ++ m.searchesIn tick) := by
  have hnext := (h.settle hh).advance (m.settle_handles.symm ▸ hh) m.settle_commands
  have hmade : m.searchesIn tick = searches m.now m.settle.2 ++
      searches (m.settle.1.now + 1) (m.settle.1.advance 1).settle.2 := by
    simp only [Machine.searchesIn, tick, Machine.happen, searches_nil, List.append_nil]
    rfl
  rw [hmade, ← List.append_assoc]
  exact hnext

theorem elapse (h : Punctual settings m rs made) (ms : Nat)
    (ha : (m.happenAll (List.replicate ms tick).flatten).1.Alive) :
    Punctual settings (m.happenAll (List.replicate ms tick).flatten).1 rs
      (made ++ m.searchesIn (List.replicate ms tick).flatten) := by
  induction ms generalizing m made with
  | zero =>
    rw [List.replicate_zero, List.flatten_nil, Machine.searchesIn, List.append_nil]
    exact h
  | succ ms ih =>
    rw [List.replicate_succ, List.flatten_cons, Machine.happenAll_append] at ha ⊢
    rw [Machine.searchesIn_append, ← List.append_assoc]
    exact ih (h.ticked (Machine.alive_of_happenAll (Machine.alive_of_happenAll ha)).2) ha

theorem sent (h : Punctual settings m rs made) (hd : 0 < settings.debounce) (c : Command) :
    Punctual settings (m.happen (.send c)).1 (rs ++ (c.request? m.now).toList) made := by
  rw [Machine.send_of_running h.running]
  have hheeded : ({ m with commands := m.commands ++ [c] } : Machine).heeded =
      (lastWaiting settings.debounce (c.request? m.now).toList).or m.heeded := by
    simp only [Machine.heeded, List.filterMap_append, lastWaiting_append, Option.or_assoc, h.same]
    cases c <;> rfl
  cases c with
  | operate operation id =>
    have hnone : (Command.operate operation id).request? m.now = none := rfl
    rw [hnone, Option.toList_none, List.append_nil]
    exact h.congr rfl rfl rfl hheeded
  | search keyword =>
    have hsome : (Command.search keyword).request? m.now = some ⟨m.now, keyword⟩ := rfl
    rw [hsome, Option.toList_some]
    refine ⟨h.same, h.running, hheeded.trans ?_, ?_, ?_⟩
    · exact (awaited_snoc hd m.now rs keyword).symm
    · exact List.forall_mem_append.2 ⟨h.past, List.forall_mem_singleton.2 (Nat.le_refl m.now)⟩
    · rw [h.made, due_snoc hd m.now rs keyword]

/-- Whatever happens, a machine that stays alive stays punctual. -/
theorem happened (h : Punctual settings m rs made) (hd : 0 < settings.debounce) (k : Happening)
    (ha : (m.happenAll k.ticking).1.Alive) :
    Punctual settings (m.happenAll k.ticking).1 (rs ++ (k.request? m.now).toList)
      (made ++ m.searchesIn k.ticking) := by
  have halive : m.Alive := Machine.alive_of_happenAll ha
  -- quiet happenings, the clock, settling, requests, and an abort, which is not survived
  obtain hk | ⟨ms, rfl⟩ | rfl | ⟨c, rfl⟩ | rfl := k.cases_quiet
  · obtain ⟨hcalm, he⟩ := Machine.calm_of_isQuiet hk m
    obtain ⟨ht, -, hnone⟩ := k.of_isQuiet hk m.now
    simp only [hnone, ht, Machine.searchesIn, he, searches_nil, Option.toList_none, List.append_nil]
    exact h.congr hcalm.settings hcalm.phase hcalm.now hcalm.heeded
  · have hnone : (Happening.advance ms).request? m.now = none := rfl
    rw [hnone, Option.toList_none, List.append_nil]
    exact h.elapse ms ha
  · have hnone : Happening.settle.request? m.now = none := rfl
    have hmade : m.searchesIn Happening.settle.ticking = searches m.now m.settle.2 ++ [] := rfl
    rw [hmade, List.append_nil, hnone, Option.toList_none, List.append_nil]
    exact h.settle halive.2
  · have hmade : m.searchesIn (Happening.send c).ticking = [] := rfl
    rw [hmade, List.append_nil]
    exact h.sent hd c
  · exact absurd (congrArg Machine.phase (Machine.abort_of_running h.running)) ha.1

/-- Over a whole history, a machine that stays alive stays punctual. -/
theorem run (h : Punctual settings m rs made) (hd : 0 < settings.debounce) (ks : List Happening)
    (ha : (m.happenAll (ks.flatMap Happening.ticking)).1.Alive) :
    Punctual settings (m.happenAll (ks.flatMap Happening.ticking)).1 (rs ++ requests m.now ks)
      (made ++ m.searchesIn (ks.flatMap Happening.ticking)) ∧
      (m.happenAll (ks.flatMap Happening.ticking)).1.now = m.now + elapsed ks := by
  induction ks generalizing m rs made with
  | nil =>
    simp only [List.flatMap_nil, requests, Machine.searchesIn, List.append_nil]
    exact ⟨h, rfl⟩
  | cons k ks ih =>
    rw [List.flatMap_cons, Machine.happenAll_append] at ha ⊢
    obtain ⟨h', hn⟩ := ih (h.happened hd k (Machine.alive_of_happenAll ha)) ha
    rw [m.now_happened k, List.append_assoc] at h'
    rw [m.now_happened k] at hn
    rw [Machine.searchesIn_append, ← List.append_assoc, requests]
    exact ⟨h', by rw [hn, elapsed, Nat.add_assoc]⟩

end Punctual

theorem punctual_start (settings : Settings) :
    Punctual settings (Machine.start settings).1 [] (searches 0 (Machine.start settings).2) := by
  have hload : settings.load = if settings.initialLoad then [⟨0, ""⟩] else [] := rfl
  unfold Machine.start
  cases hinitial : settings.initialLoad with
  | true => exact ⟨rfl, rfl, rfl, nofun, by rw [hload, hinitial]; rfl⟩
  | false => exact ⟨rfl, rfl, rfl, nofun, by rw [hload, hinitial]; rfl⟩

theorem punctual_timed {settings : Settings} (hd : 0 < settings.debounce) {hs : List Happening}
    (ha : (Machine.timed settings hs).Alive) :
    Punctual settings (Machine.timed settings hs) (requests 0 hs)
      (Machine.timedSearches settings hs) ∧ (Machine.timed settings hs).now = elapsed hs := by
  have hnow : (Machine.start settings).1.now = 0 := by
    unfold Machine.start
    split <;> rfl
  have hrun := (punctual_start settings).run hd hs ha
  rw [hnow, List.nil_append, Nat.zero_add] at hrun
  exact hrun

/-! ## The law -/

namespace Machine

theorem filter_load (settings : Settings) (upTo : Nat) :
    settings.load.filter (·.time ≤ upTo) = settings.load := by
  unfold Settings.load
  split <;> rfl

/-- What the debounce law says of a machine and of all that has happened to it. -/
structure Debounced (settings : Settings) (hs : List Happening) : Prop where
  /-- Apart from the one at the start, the searches up to any time are those that are due. -/
  law : ∀ upTo ≤ elapsed hs, (timedSearches settings hs).filter (·.time ≤ upTo) =
    settings.load ++ due settings.debounce upTo (requests 0 hs)
  /-- A burst leads to one search, with its last keyword. -/
  burst : ∀ earlier b rs later last, requests 0 hs = earlier ++ (b :: rs ++ later) →
    Burst settings.debounce (b :: rs) → (b :: rs).getLast (List.cons_ne_nil b rs) = last →
    (∀ q ∈ later, last.time + settings.debounce ≤ q.time) →
    ∀ upTo ≤ elapsed hs, last.time + settings.debounce ≤ upTo →
      (timedSearches settings hs).filter (·.time ≤ upTo) =
        settings.load ++ due settings.debounce b.time earlier ++
          ⟨last.time + settings.debounce, Text.trim last.keyword⟩ ::
            due settings.debounce upTo later
  /-- Without operations, reports and answers, the searches are the same. -/
  alone : timedSearches settings (hs.filter (·.isTimed)) = timedSearches settings hs

/-- **The debounce law.** -/
theorem debounced {settings : Settings} (hd : 0 < settings.debounce) {hs : List Happening}
    (ha : (timed settings hs).Alive) : Debounced settings hs := by
  obtain ⟨h, hnow⟩ := punctual_timed hd ha
  have hlaw : ∀ upTo ≤ elapsed hs, (timedSearches settings hs).filter (·.time ≤ upTo) =
      settings.load ++ due settings.debounce upTo (requests 0 hs) := fun upTo hupTo => by
    rw [h.made, hnow, List.filter_append, filter_load, filter_due settings.debounce hupTo]
  refine ⟨hlaw, ?_, ?_⟩
  · intro earlier b rs later last hrs hburst hlast hlater upTo hupTo hdue
    have hsorted := requests_sorted 0 hs
    rw [hrs] at hsorted
    rw [hlaw upTo hupTo, hrs, due_of_burst hsorted hburst hlast hlater hdue, List.append_assoc]
  · have halone : (timed settings (hs.filter (·.isTimed))).Alive :=
      (alive_start settings).timed fun k hk => (List.mem_filter.1 hk).2
    obtain ⟨h', hnow'⟩ := punctual_timed hd halone
    obtain ⟨hr, he⟩ := requests_filter 0 hs
    rw [h'.made, h.made, hnow, hnow', hr, he]

/-- Edits with a debounce of 3: the second comes when the deadline of the first is reached, and the
third before that of the second; an install is requested in between. -/
def edits : List Happening :=
  [.send (.search " a "), .advance 3, .send (.search "b"), .advance 1,
    .send (.operate .install "x"), .send (.search "c"), .advance 2, .settle, .advance 2]

/-- The search at the start, the first edit's and the third's. -/
theorem debounced_edits :
    let settings : Settings := ⟨⟨"http", none, "/", none, none⟩, 3, true⟩
    0 < settings.debounce ∧ (timed settings edits).Alive ∧ Debounced settings edits ∧
      timedSearches settings edits = [⟨0, ""⟩, ⟨3, "a"⟩, ⟨7, "c"⟩] := by
  intro settings
  have hd : 0 < settings.debounce := by decide
  have ha : (timed settings edits).Alive := by decide
  exact ⟨hd, ha, debounced hd ha, by decide⟩

end Machine

end ExtensionCatalogue.Sync
