import ExtensionCatalogue.Proofs.Sync.World
import ExtensionCatalogue.Sync.Machine

/-!
# Machines play runs

Whatever happens to a machine, its controller goes through one of the runs of `World`: the state is
the same, and so are the calls and the events. While the machine is running, its queue of
completions is in order. Followed to its end from the calls underway, it reports on calls underway
only, answers each once, and leaves the calls that are still open on the transport.
-/

namespace ExtensionCatalogue.Sync

/-- What can happen to a machine. -/
inductive Happening where
  | send (c : Command)
  | addHandle
  | dropHandle
  | abort
  | advance (ms : Nat)
  | report (n : Nat) (percents : List Nat)
  | replySearch (n : Nat) (result : Except Failure (List Package))
  | replyOperation (n : Nat) (result : Except Failure Unit)
  | settle

namespace Machine

/-- The machine after something has happened, and what its controller did. -/
def happen (m : Machine) : Happening → Machine × List Effect
  | .send c => ((m.send c).toOption.getD m, [])
  | .addHandle => (m.addHandle, [])
  | .dropHandle => (m.dropHandle, [])
  | .abort => (m.abort, [])
  | .advance ms => (m.advance ms, [])
  | .report n percents => (m.report n percents, [])
  | .replySearch n result => (m.replySearch n result, [])
  | .replyOperation n result => (m.replyOperation n result, [])
  | .settle => m.settle

def happenAll (m : Machine) : List Happening → Machine × List Effect
  | [] => (m, [])
  | h :: hs =>
    let (m, es) := m.happen h
    let (m, more) := happenAll m hs
    (m, es ++ more)

/-- A new machine after all that has happened to it, and what its controller did. -/
def history (settings : Settings) (hs : List Happening) : Machine × List Effect :=
  let (m, es) := start settings
  let (m, more) := m.happenAll hs
  (m, es ++ more)

end Machine

/-- Starting from the calls underway, a queue reports on calls underway, answers calls underway,
and leaves the calls that are open. -/
inductive Delivers : List Call → List Completion → List Call → Prop where
  | done {cs ds : List Call} (h : cs.Perm ds) : Delivers cs [] ds
  | report {cs ds : List Call} {q : List Completion} (p : Package) (percent : Nat)
      (hp : .operation .install p ∈ cs) (h : Delivers cs q ds) :
      Delivers cs (.progress p.id percent :: q) ds
  | answer {cs ds : List Call} {q : List Completion} (a : Answer) (ha : a.call ∈ cs)
      (h : Delivers (cs.erase a.call) q ds) : Delivers cs (a.completion :: q) ds

namespace Delivers

variable {cs ds : List Call} {q : List Completion}

/-- Further calls are underway and open. -/
theorem append (h : Delivers cs q ds) (es : List Call) : Delivers (cs ++ es) q (ds ++ es) := by
  induction h with
  | done h => exact .done (h.append_right es)
  | report p percent hp _ ih => exact .report p percent (List.mem_append_left es hp) ih
  | answer a ha _ ih =>
    refine .answer a (List.mem_append_left es ha) ?_
    rw [List.erase_append_left es ha]
    exact ih

theorem perm (h : Delivers cs q ds) {es : List Call} (he : ds.Perm es) : Delivers cs q es := by
  induction h with
  | done h => exact .done (h.trans he)
  | report p percent hp _ ih => exact .report p percent hp (ih he)
  | answer a ha _ ih => exact .answer a ha (ih he)

theorem snoc_report (h : Delivers cs q ds) {p : Package} (hp : .operation .install p ∈ ds)
    (percent : Nat) : Delivers cs (q ++ [.progress p.id percent]) ds := by
  induction h with
  | done h => exact .report p percent (h.mem_iff.2 hp) (.done h)
  | report p' percent' hp' _ ih => exact .report p' percent' hp' (ih hp)
  | answer a ha _ ih => exact .answer a ha (ih hp)

theorem append_reports (h : Delivers cs q ds) {p : Package} (hp : .operation .install p ∈ ds)
    (percents : List Nat) : Delivers cs (q ++ percents.map (.progress p.id)) ds := by
  induction percents generalizing q with
  | nil =>
    rw [List.map_nil, List.append_nil]
    exact h
  | cons percent percents ih =>
    rw [List.map_cons, List.append_cons]
    exact ih (h.snoc_report hp percent)

theorem snoc_answer (h : Delivers cs q ds) {a : Answer} (ha : a.call ∈ ds) :
    Delivers cs (q ++ [a.completion]) (ds.erase a.call) := by
  induction h with
  | done h => exact .answer a (h.mem_iff.2 ha) (.done (h.erase a.call))
  | report p percent hp _ ih => exact .report p percent hp (ih ha)
  | answer a' ha' _ ih => exact .answer a' ha' (ih ha)

end Delivers

/-! ## Numbers of calls -/

namespace Machine

theorem number_snd (next : Nat) (es : List Effect) :
    (number next es).map (·.2) = Sync.calls es := by
  induction es generalizing next with
  | nil => rfl
  | cons e es ih =>
    cases e with
    | call c => exact congrArg (c :: ·) (ih (next + 1))
    | _ => exact ih next

theorem number_fst (next : Nat) (es : List Effect) :
    (number next es).map (·.1) = List.range' next (Sync.calls es).length := by
  induction es generalizing next with
  | nil => rfl
  | cons e es ih =>
    cases e with
    | call c => exact congrArg (next :: ·) (ih (next + 1))
    | _ => exact ih next

theorem number_length (next : Nat) (es : List Effect) :
    (number next es).length = (Sync.calls es).length := by
  rw [← number_snd next es, List.length_map]

/-- The open calls have numbers that have been given, each its own. -/
structure Tagged (m : Machine) : Prop where
  nodup : (m.opened.map (·.1)).Nodup
  given : ∀ n ∈ m.opened.map (·.1), n < m.calls

theorem Tagged.absorb {m : Machine} (h : m.Tagged) (s : State) (es : List Effect) :
    (m.absorb s es).Tagged where
  nodup := by
    simp only [Machine.absorb, List.map_append, number_fst]
    rw [List.nodup_append]
    refine ⟨h.nodup, List.nodup_range', fun a ha b hb => ?_⟩
    have hlt := h.given a ha
    have hle := (List.mem_range'_1.1 hb).1
    omega
  given n hn := by
    simp only [Machine.absorb, List.map_append, number_fst, List.mem_append] at hn
    show n < m.calls + (number m.calls es).length
    rw [number_length]
    rcases hn with hn | hn
    · have := h.given n hn
      omega
    · exact (List.mem_range'_1.1 hn).2

theorem Tagged.close {m : Machine} (h : m.Tagged) (n : Nat) : (m.close n).Tagged where
  nodup := h.nodup.sublist (List.filter_sublist.map _)
  given k hk := h.given k ((List.filter_sublist.map _).subset hk)

/-- Where each number stands once, what is found under a number is all that goes with it. -/
theorem perm_of_lookup {cs : List (Nat × Call)} (hcs : (cs.map (·.1)).Nodup) {n : Nat} {c : Call}
    (hc : cs.lookup n = some c) :
    (cs.map (·.2)).Perm (c :: (cs.filter (·.1 ≠ n)).map (·.2)) := by
  induction cs with
  | nil => cases hc
  | cons e cs ih =>
    obtain ⟨k, d⟩ := e
    obtain ⟨hk, hrest⟩ := List.nodup_cons.1 hcs
    rw [List.lookup_cons] at hc
    by_cases hn : n = k
    · subst hn
      obtain rfl : d = c := by simpa using hc
      have hkeep : cs.filter (·.1 ≠ n) = cs := List.filter_eq_self.2 fun e he => by
        simpa using fun hen => hk (List.mem_map.2 ⟨e, he, hen⟩)
      rw [List.filter_cons_of_neg (by simp), hkeep]
      exact List.Perm.refl _
    · have hkn : (n == k) = false := beq_eq_false_iff_ne.2 hn
      rw [hkn] at hc
      rw [List.filter_cons_of_pos (by simpa using Ne.symm hn)]
      exact ((ih hrest hc).cons d).trans (List.Perm.swap c d _)

end Machine

/-! ## Playing along -/

/-- The machine's controller is where the run is, and has made the same calls and events. -/
structure Follows (settings : Settings) (m : Machine) (es : List Effect) (w : World) : Prop where
  settings : m.settings = settings
  state : m.state = w.state
  calls : calls es = calls w.effects
  events : events es = events w.effects
  tagged : m.Tagged

/-- Besides, the queue delivers what is underway. -/
structure Plays (settings : Settings) (q : List Completion) (m : Machine) (es : List Effect)
    (w : World) : Prop extends Follows settings m es w where
  queue : Delivers w.underway q (m.opened.map (·.2))

variable {settings : Settings} {m : Machine} {es : List Effect} {w : World} {q : List Completion}

theorem World.effects_move {debounce : Nat} {mv : Move} (hm : w.Possible mv) :
    (w.move debounce mv).effects = w.effects ++ (w.state.step debounce mv.input).2 := by
  rw [World.move_of_possible hm]
  simp [World.effects, World.turned]

/-- The machine handles an input as the run makes a move. -/
theorem Follows.handle {mv : Move} (h : Follows settings m es w) (hm : w.Possible mv)
    (hq : Delivers (w.left mv) q (m.opened.map (·.2))) :
    Plays settings q (m.handle mv.input).1 (es ++ (m.handle mv.input).2)
      (w.move settings.debounce mv) := by
  have hstep : m.state.step m.settings.debounce mv.input =
      w.state.step settings.debounce mv.input := by rw [h.state, h.settings]
  have hopened : (m.handle mv.input).1.opened.map (·.2) =
      m.opened.map (·.2) ++ Sync.calls (w.state.step settings.debounce mv.input).2 := by
    simp [Machine.handle, Machine.absorb, hstep, Machine.number_snd]
  have heffects : (m.handle mv.input).2 = (w.state.step settings.debounce mv.input).2 := by
    simp [Machine.handle, hstep]
  have hmove : w.move settings.debounce mv = _ := World.move_of_possible hm
  refine ⟨⟨h.settings, ?_, ?_, ?_, h.tagged.absorb _ _⟩, ?_⟩
  · rw [hmove]
    simp [Machine.handle, Machine.absorb, hstep, World.turned]
  · rw [calls_append, h.calls, heffects, World.effects_move hm, calls_append]
  · rw [events_append, h.events, heffects, World.effects_move hm, events_append]
  · rw [hopened, hmove]
    exact hq.append _

theorem Plays.commands (h : Plays settings q m es w) (now : Nat) (cs : List Command) :
    ∃ ms, Plays settings q (m.handleAll (cs.map (.command · now))).1
      (es ++ (m.handleAll (cs.map (.command · now))).2) (w.play settings.debounce ms) := by
  induction cs generalizing m es w with
  | nil =>
    refine ⟨[], ?_⟩
    rw [List.map_nil, Machine.handleAll, List.append_nil]
    exact h
  | cons c cs ih =>
    have hm : w.Possible (.request c now) := trivial
    obtain ⟨ms, hms⟩ := ih (h.toFollows.handle hm h.queue)
    refine ⟨.request c now :: ms, ?_⟩
    rw [List.append_assoc] at hms
    exact hms

theorem Plays.completions (h : Plays settings q m es w) :
    ∃ ms, Plays settings [] (m.handleAll (q.map .completion)).1
      (es ++ (m.handleAll (q.map .completion)).2) (w.play settings.debounce ms) := by
  induction q generalizing m es w with
  | nil =>
    refine ⟨[], ?_⟩
    rw [List.map_nil, Machine.handleAll, List.append_nil]
    exact h
  | cons c q ih =>
    -- what the queue delivers first is a move of the run
    obtain ⟨mv, hm, hc, hq⟩ : ∃ mv, w.Possible mv ∧ mv.input = .completion c ∧
        Delivers (w.left mv) q (m.opened.map (·.2)) := by
      cases h.queue with
      | report p percent hp hq => exact ⟨.report p percent, hp, rfl, hq⟩
      | answer a ha hq => exact ⟨.answer a, ha, rfl, hq⟩
    obtain ⟨ms, hms⟩ := ih (h.toFollows.handle hm hq)
    refine ⟨mv :: ms, ?_⟩
    rw [List.append_assoc, hc] at hms
    exact hms

namespace Machine

/-- The machine with nothing queued. -/
def emptied (m : Machine) : Machine := { m with commands := [], completions := [] }

/-- Fire the search that is due, if there is one. -/
def expireIfDue (m : Machine) : Machine × List Effect :=
  if m.isDue then m.handle .expiry else (m, [])

/-- What a machine has queued, in the order of its handling. -/
def queue (m : Machine) : List Input :=
  m.commands.map (.command · m.now) ++ m.completions.map .completion

/-- What a running machine does when it settles, before it may end. -/
def served (m : Machine) : Machine × List Effect :=
  let handled := m.emptied.handleAll m.queue
  (handled.1.expireIfDue.1, handled.2 ++ handled.1.expireIfDue.2)

theorem handleAll_append (m : Machine) (is js : List Input) :
    m.handleAll (is ++ js) =
      (((m.handleAll is).1.handleAll js).1,
        (m.handleAll is).2 ++ ((m.handleAll is).1.handleAll js).2) := by
  induction is generalizing m with
  | nil => rfl
  | cons i is ih => simp [handleAll, ih, List.append_assoc]

section
variable {α : Type} (f : Machine → α)

/-- What the controller's steps leave alone stays while inputs are handled. -/
theorem handleAll_keeps (hf : ∀ m s es, f (absorb m s es) = f m) (m : Machine) (is : List Input) :
    f (m.handleAll is).1 = f m := by
  induction is generalizing m with
  | nil => rfl
  | cons i is ih => exact (ih _).trans (hf m _ _)

theorem expireIfDue_keeps (hf : ∀ m s es, f (absorb m s es) = f m) (m : Machine) :
    f m.expireIfDue.1 = f m := by
  unfold expireIfDue
  split
  · exact hf m _ _
  · rfl

end

theorem settle_of_running {m : Machine} (h : m.phase = .running) :
    m.settle = (m.served.1.stopIfDeserted.1, m.served.2 ++ m.served.1.stopIfDeserted.2) := by
  unfold settle
  split
  · rfl
  · contradiction

theorem settle_of_not_running {m : Machine} (h : m.phase ≠ .running) :
    m.settle = (m.emptied, []) := by
  unfold settle
  split
  · contradiction
  · rfl

end Machine

theorem Plays.expireIfDue (h : Plays settings [] m es w) :
    ∃ ms, Plays settings [] m.expireIfDue.1 (es ++ m.expireIfDue.2)
      (w.play settings.debounce ms) := by
  unfold Machine.expireIfDue
  split
  · have hm : w.Possible .expiry := trivial
    exact ⟨[.expiry], h.toFollows.handle hm h.queue⟩
  · refine ⟨[], ?_⟩
    rw [List.append_nil]
    exact h

theorem Plays.served (h : Plays settings m.completions m.emptied es w) :
    ∃ ms, Plays settings [] m.served.1 (es ++ m.served.2) (w.play settings.debounce ms) := by
  obtain ⟨ms₁, h₁⟩ := h.commands m.now m.commands
  obtain ⟨ms₂, h₂⟩ := h₁.completions
  obtain ⟨ms₃, h₃⟩ := h₂.expireIfDue
  refine ⟨ms₁ ++ (ms₂ ++ ms₃), ?_⟩
  rw [World.play_append, World.play_append, Machine.served, Machine.queue,
    Machine.handleAll_append, ← List.append_assoc, ← List.append_assoc]
  exact h₃

/-- The machine follows the run, and while it is running its queue delivers what is underway. -/
structure Accords (settings : Settings) (m : Machine) (es : List Effect) (w : World) : Prop extends
    Follows settings m es w where
  queue : m.phase = .running → Delivers w.underway m.completions (m.opened.map (·.2))

/-- What the run does not see of a machine may change. -/
theorem Follows.congr {m' : Machine} (h : Follows settings m es w)
    (hs : m'.settings = m.settings) (hst : m'.state = m.state) (ht : m'.Tagged) :
    Follows settings m' es w :=
  ⟨hs.trans h.settings, hst.trans h.state, h.calls, h.events, ht⟩

theorem Plays.stopIfDeserted (h : Plays settings [] m es w) (hq : m.completions = []) :
    Accords settings m.stopIfDeserted.1 (es ++ m.stopIfDeserted.2) w := by
  unfold Machine.stopIfDeserted
  split
  · refine ⟨⟨h.settings, h.state, ?_, ?_, ⟨h.tagged.nodup, h.tagged.given⟩⟩, fun hr => by cases hr⟩
    · rw [calls_append, h.calls]
      exact List.append_nil _
    · rw [events_append, h.events]
      exact List.append_nil _
  · rw [List.append_nil]
    exact ⟨h.toFollows, fun _ => hq ▸ h.queue⟩

/-- A machine that settles goes on with its run. -/
theorem Accords.settle (h : Accords settings m es w) :
    ∃ ms, Accords settings m.settle.1 (es ++ m.settle.2) (w.play settings.debounce ms) := by
  by_cases hr : m.phase = .running
  · have h₀ : Plays settings m.completions m.emptied es w :=
      ⟨h.toFollows.congr rfl rfl ⟨h.tagged.nodup, h.tagged.given⟩, h.queue hr⟩
    obtain ⟨ms, hms⟩ := h₀.served
    refine ⟨ms, ?_⟩
    rw [Machine.settle_of_running hr, ← List.append_assoc]
    refine hms.stopIfDeserted ?_
    rw [Machine.served, Machine.expireIfDue_keeps (·.completions) (fun _ _ _ => rfl),
      Machine.handleAll_keeps (·.completions) (fun _ _ _ => rfl)]
    rfl
  · refine ⟨[], ?_⟩
    rw [Machine.settle_of_not_running hr, List.append_nil]
    exact ⟨h.toFollows.congr rfl rfl ⟨h.tagged.nodup, h.tagged.given⟩, fun hr' => absurd hr' hr⟩

/-! ## What happens outside -/

/-- The answer to an open call goes to the end of the queue. -/
theorem Delivers.close {cs : List Call} {a : Answer} {n : Nat}
    (h : Delivers cs q (m.opened.map (·.2))) (ht : m.Tagged) (hc : m.call? n = some a.call) :
    Delivers cs (q ++ [a.completion]) ((m.close n).opened.map (·.2)) := by
  have hp := Machine.perm_of_lookup ht.nodup hc
  have ha : a.call ∈ m.opened.map (·.2) := hp.mem_iff.2 List.mem_cons_self
  refine (h.snoc_answer ha).perm ?_
  have herase := hp.erase a.call
  rw [List.erase_cons_head] at herase
  exact herase

theorem Accords.report (h : Accords settings m es w) (n : Nat) (percents : List Nat) :
    Accords settings (m.report n percents) es w := by
  unfold Machine.report
  split
  · rename_i p hc
    have hp := Machine.perm_of_lookup h.tagged.nodup hc
    have hopen : .operation .install p ∈ m.opened.map (·.2) := hp.mem_iff.2 List.mem_cons_self
    exact ⟨h.toFollows.congr rfl rfl ⟨h.tagged.nodup, h.tagged.given⟩,
      fun hr => (h.queue hr).append_reports hopen percents⟩
  · exact h

theorem Accords.replySearch (h : Accords settings m es w) (n : Nat)
    (result : Except Failure (List Package)) :
    Accords settings (m.replySearch n result) es w := by
  unfold Machine.replySearch
  split
  · rename_i generation keyword hc
    have ht := h.tagged.close n
    exact ⟨h.toFollows.congr rfl rfl ⟨ht.nodup, ht.given⟩,
      fun hr => (h.queue hr).close (a := .search generation keyword result) h.tagged hc⟩
  · exact h

theorem Accords.replyOperation (h : Accords settings m es w) (n : Nat)
    (result : Except Failure Unit) :
    Accords settings (m.replyOperation n result) es w := by
  unfold Machine.replyOperation
  split
  · rename_i o p hc
    have ht := h.tagged.close n
    exact ⟨h.toFollows.congr rfl rfl ⟨ht.nodup, ht.given⟩,
      fun hr => (h.queue hr).close (a := .operation o p result) h.tagged hc⟩
  · exact h

/-- The clock, the handles and the requests may change, and the machine may stop. -/
theorem Accords.congr {m' : Machine} (h : Accords settings m es w)
    (hs : m'.settings = m.settings) (hst : m'.state = m.state) (ho : m'.opened = m.opened)
    (hc : m'.calls = m.calls) (hq : m'.completions = m.completions)
    (hph : m'.phase = .running → m.phase = .running) : Accords settings m' es w := by
  have ht : m'.Tagged := ⟨ho ▸ h.tagged.nodup, ho ▸ hc ▸ h.tagged.given⟩
  refine ⟨h.toFollows.congr hs hst ht, fun hr => ?_⟩
  rw [ho, hq]
  exact h.queue (hph hr)

theorem Accords.addHandle (h : Accords settings m es w) : Accords settings m.addHandle es w := by
  unfold Machine.addHandle
  split
  · exact h
  · exact h.congr rfl rfl rfl rfl rfl id

theorem Accords.abort (h : Accords settings m es w) : Accords settings m.abort es w := by
  unfold Machine.abort
  split
  · exact h.congr rfl rfl rfl rfl rfl fun hr => by cases hr
  · exact h

theorem Accords.send (h : Accords settings m es w) (c : Command) :
    Accords settings (m.happen (.send c)).1 es w := by
  unfold Machine.happen Machine.send
  cases m.isRunning with
  | true => exact h.congr rfl rfl rfl rfl rfl id
  | false => exact h

/-- Whatever happens, the machine goes on with its run. -/
theorem Accords.happen (h : Accords settings m es w) (k : Happening) :
    ∃ ms, Accords settings (m.happen k).1 (es ++ (m.happen k).2) (w.play settings.debounce ms) := by
  -- only a machine that settles has effects
  have hquiet : Accords settings (m.happen k).1 es w → (m.happen k).2 = [] →
      ∃ ms, Accords settings (m.happen k).1 (es ++ (m.happen k).2)
        (w.play settings.debounce ms) := fun h' he => by
    refine ⟨[], ?_⟩
    rw [he, List.append_nil]
    exact h'
  cases k with
  | settle => exact h.settle
  | report n percents => exact hquiet (h.report n percents) rfl
  | replySearch n result => exact hquiet (h.replySearch n result) rfl
  | replyOperation n result => exact hquiet (h.replyOperation n result) rfl
  | advance ms => exact hquiet (h.congr rfl rfl rfl rfl rfl id) rfl
  | dropHandle => exact hquiet (h.congr rfl rfl rfl rfl rfl id) rfl
  | addHandle => exact hquiet h.addHandle rfl
  | abort => exact hquiet h.abort rfl
  | send c => exact hquiet (h.send c) rfl

theorem Accords.happenAll (h : Accords settings m es w) (ks : List Happening) :
    ∃ ms, Accords settings (m.happenAll ks).1 (es ++ (m.happenAll ks).2)
      (w.play settings.debounce ms) := by
  induction ks generalizing m es w with
  | nil =>
    refine ⟨[], ?_⟩
    rw [Machine.happenAll, List.append_nil]
    exact h
  | cons k ks ih =>
    obtain ⟨ms, hms⟩ := h.happen k
    obtain ⟨ns, hns⟩ := ih hms
    refine ⟨ms ++ ns, ?_⟩
    rw [World.play_append]
    rw [List.append_assoc] at hns
    exact hns

theorem accords_start (settings : Settings) :
    Accords settings (Machine.start settings).1 (Machine.start settings).2
      (World.start settings.initialLoad) := by
  have hnone : ∀ m : Machine, m.opened = [] → m.Tagged := fun m ho =>
    ⟨by simp [ho], by simp [ho]⟩
  unfold Machine.start World.start
  cases settings.initialLoad with
  | true => exact ⟨⟨rfl, rfl, rfl, rfl, (hnone _ rfl).absorb _ _⟩, fun _ => .done (List.Perm.refl _)⟩
  | false => exact ⟨⟨rfl, rfl, rfl, rfl, hnone _ rfl⟩, fun _ => .done (List.Perm.refl _)⟩

/-- **Every machine plays a run.** -/
theorem history_plays (settings : Settings) (ks : List Happening) :
    ∃ ms, Accords settings (Machine.history settings ks).1 (Machine.history settings ks).2
      (World.after settings.debounce settings.initialLoad ms) :=
  (accords_start settings).happenAll ks

end ExtensionCatalogue.Sync
