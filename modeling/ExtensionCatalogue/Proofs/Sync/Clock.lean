import ExtensionCatalogue.Proofs.Sync.DueSearches
import ExtensionCatalogue.Proofs.Sync.Machine

/-!
# A clock that ticks

A machine is watched tick by tick: before the clock moves the controller has handled whatever is
queued, and with the tick its timer expires if the deadline is reached. Here is what settling and
what happens outside leave alone, which search requests a history sends and when, and what keeps a
machine alive.
-/

namespace ExtensionCatalogue.Sync

/-! ## Histories in time -/

def Command.request? (now : Nat) : Command → Option Search
  | .search keyword => some ⟨now, keyword⟩
  | .operate _ _ => none

/-- The clock moves by one. -/
def tick : List Happening := [.settle, .advance 1, .settle]

namespace Happening

/-- The same with a clock that ticks. -/
def ticking : Happening → List Happening
  | .advance ms => (List.replicate ms tick).flatten
  | h => [h]

/-- How much time passes. -/
def span : Happening → Nat
  | .advance ms => ms
  | _ => 0

/-- The search request that is sent, if one is. -/
def request? (now : Nat) : Happening → Option Search
  | .send c => c.request? now
  | _ => none

/-- Whether only the handles, the open calls and what these queue may change. -/
def isQuiet : Happening → Bool
  | .addHandle | .dropHandle | .report _ _ | .replySearch _ _ | .replyOperation _ _ => true
  | _ => false

theorem of_isQuiet {k : Happening} (hk : k.isQuiet = true) (now : Nat) :
    k.ticking = [k] ∧ k.span = 0 ∧ k.request? now = none := by
  cases k <;> first | exact ⟨rfl, rfl, rfl⟩ | contradiction

theorem cases_quiet (k : Happening) :
    k.isQuiet = true ∨ (∃ ms, k = .advance ms) ∨ k = .settle ∨ (∃ c, k = .send c) ∨ k = .abort := by
  cases k <;> simp [isQuiet]

/-- Whether time passes or a search is requested. -/
def isTimed : Happening → Bool
  | .advance _ | .send (.search _) => true
  | _ => false

end Happening

/-- The time that passes in all. -/
def elapsed : List Happening → Nat
  | [] => 0
  | h :: hs => h.span + elapsed hs

/-- The search requests, sent from time `now` on. -/
def requests (now : Nat) : List Happening → List Search
  | [] => []
  | h :: hs => (h.request? now).toList ++ requests (now + h.span) hs

theorem Happening.time_of_request {k : Happening} {now : Nat} {r : Search}
    (h : k.request? now = some r) : r.time = now := by
  cases k with
  | send c =>
    cases c with
    | search keyword =>
      obtain rfl : (⟨now, keyword⟩ : Search) = r := Option.some.inj h
      rfl
    | operate operation id => cases h
  | _ => cases h

theorem le_of_mem_requests {now : Nat} {hs : List Happening} {r : Search}
    (hr : r ∈ requests now hs) : now ≤ r.time ∧ r.time ≤ now + elapsed hs := by
  induction hs generalizing now with
  | nil => cases hr
  | cons k hs ih =>
    rw [elapsed]
    rcases List.mem_append.1 hr with hr | hr
    · have := k.time_of_request (Option.mem_toList.1 hr)
      omega
    · obtain ⟨hle, hge⟩ := ih hr
      omega

theorem requests_sorted (now : Nat) (hs : List Happening) :
    (requests now hs).Pairwise fun r q => r.time ≤ q.time := by
  induction hs generalizing now with
  | nil => exact List.Pairwise.nil
  | cons k hs ih =>
    rw [requests]
    cases hk : k.request? now with
    | none => exact ih _
    | some r =>
      refine List.pairwise_cons.2 ⟨fun q hq => ?_, ih _⟩
      have := k.time_of_request hk
      have := (le_of_mem_requests hq).1
      omega

theorem Happening.of_not_isTimed {k : Happening} (hk : k.isTimed ≠ true) (now : Nat) :
    k.request? now = none ∧ k.span = 0 := by
  cases k with
  | send c =>
    cases c with
    | search keyword => exact absurd rfl hk
    | operate operation id => exact ⟨rfl, rfl⟩
  | advance ms => exact absurd rfl hk
  | _ => exact ⟨rfl, rfl⟩

theorem requests_filter (now : Nat) (hs : List Happening) :
    requests now (hs.filter (·.isTimed)) = requests now hs ∧
      elapsed (hs.filter (·.isTimed)) = elapsed hs := by
  induction hs generalizing now with
  | nil => exact ⟨rfl, rfl⟩
  | cons k hs ih =>
    by_cases hk : k.isTimed = true
    · obtain ⟨hr, he⟩ := ih (now + k.span)
      rw [List.filter_cons_of_pos hk, requests, requests, hr, elapsed, elapsed, he]
      exact ⟨rfl, rfl⟩
    · obtain ⟨hnone, hspan⟩ := k.of_not_isTimed hk now
      rw [List.filter_cons_of_neg hk, requests, elapsed, hnone, hspan, Nat.zero_add]
      exact ih now

namespace Machine

variable {m : Machine}

theorem happenAll_append (m : Machine) (hs ks : List Happening) :
    (m.happenAll (hs ++ ks)).1 = ((m.happenAll hs).1.happenAll ks).1 := by
  induction hs generalizing m with
  | nil => rfl
  | cons h hs ih => exact ih _

/-! ## Settling -/

section
variable {α : Type} (f : Machine → α)

theorem served_keeps (hf : ∀ m s es, f (absorb m s es) = f m) (hq : ∀ m, f (emptied m) = f m)
    (m : Machine) : f m.served.1 = f m := by
  rw [served, expireIfDue_keeps f hf, handleAll_keeps f hf, hq]

theorem stopIfDeserted_keeps (hp : ∀ m, f { m with phase := .ended } = f m) (m : Machine) :
    f m.stopIfDeserted.1 = f m := by
  unfold stopIfDeserted
  split
  · exact hp m
  · rfl

theorem settle_keeps (hf : ∀ m s es, f (absorb m s es) = f m) (hq : ∀ m, f (emptied m) = f m)
    (hp : ∀ m, f { m with phase := .ended } = f m) (m : Machine) : f m.settle.1 = f m := by
  by_cases hr : m.phase = .running
  · rw [settle_of_running hr, stopIfDeserted_keeps f hp, served_keeps f hf hq]
  · rw [settle_of_not_running hr, hq]

end

theorem settle_now (m : Machine) : m.settle.1.now = m.now :=
  settle_keeps (·.now) (fun _ _ _ => rfl) (fun _ => rfl) (fun _ => rfl) m

theorem settle_handles (m : Machine) : m.settle.1.handles = m.handles :=
  settle_keeps (·.handles) (fun _ _ _ => rfl) (fun _ => rfl) (fun _ => rfl) m

theorem settle_settings (m : Machine) : m.settle.1.settings = m.settings :=
  settle_keeps (·.settings) (fun _ _ _ => rfl) (fun _ => rfl) (fun _ => rfl) m

/-- A machine that settles goes on running while there is a handle. -/
theorem settle_running (hr : m.phase = .running) (hh : 0 < m.handles) :
    m.settle.1.phase = .running := by
  have hhandles : m.served.1.handles ≠ 0 := by
    rw [served_keeps (·.handles) (fun _ _ _ => rfl) (fun _ => rfl)]
    omega
  rw [settle_of_running hr, stopIfDeserted, if_neg hhandles]
  exact (served_keeps (·.phase) (fun _ _ _ => rfl) (fun _ => rfl) m).trans hr

theorem settle_commands (m : Machine) : m.settle.1.commands = [] := by
  by_cases hr : m.phase = .running
  · rw [settle_of_running hr, stopIfDeserted_keeps (·.commands) (fun _ => rfl), served,
      expireIfDue_keeps (·.commands) (fun _ _ _ => rfl),
      handleAll_keeps (·.commands) (fun _ _ _ => rfl)]
    rfl
  · rw [settle_of_not_running hr]
    rfl

/-! ## What happens outside -/

/-- Only the handles, the open calls and what these queue have changed. -/
structure Calm (m m' : Machine) : Prop where
  settings : m'.settings = m.settings
  state : m'.state = m.state
  phase : m'.phase = m.phase
  now : m'.now = m.now
  commands : m'.commands = m.commands
  handles : 0 < m'.handles → 0 < m.handles

theorem Calm.refl (m : Machine) : Calm m m := ⟨rfl, rfl, rfl, rfl, rfl, id⟩

theorem calm_of_isQuiet {k : Happening} (hk : k.isQuiet = true) (m : Machine) :
    Calm m (m.happen k).1 ∧ (m.happen k).2 = [] := by
  cases k with
  | addHandle =>
    refine ⟨?_, rfl⟩
    rw [happen, addHandle]
    split
    · exact Calm.refl m
    · rename_i hz
      exact ⟨rfl, rfl, rfl, rfl, rfl, fun _ => Nat.pos_of_ne_zero hz⟩
  | dropHandle =>
    exact ⟨⟨rfl, rfl, rfl, rfl, rfl, fun h => Nat.lt_of_lt_of_le h (Nat.sub_le _ _)⟩, rfl⟩
  | report n percents =>
    refine ⟨?_, rfl⟩
    rw [happen, report]
    split
    · exact ⟨rfl, rfl, rfl, rfl, rfl, id⟩
    · exact Calm.refl m
  | replySearch n result =>
    refine ⟨?_, rfl⟩
    rw [happen, replySearch]
    split
    · exact ⟨rfl, rfl, rfl, rfl, rfl, id⟩
    · exact Calm.refl m
  | replyOperation n result =>
    refine ⟨?_, rfl⟩
    rw [happen, replyOperation]
    split
    · exact ⟨rfl, rfl, rfl, rfl, rfl, id⟩
    · exact Calm.refl m
  | _ => contradiction

theorem send_of_running (hr : m.phase = .running) (c : Command) :
    (m.happen (.send c)).1 = { m with commands := m.commands ++ [c] } := by
  simp [happen, send, isRunning, hr, Except.toOption]

theorem send_of_not_running (hr : m.phase ≠ .running) (c : Command) :
    (m.happen (.send c)).1 = m := by
  simp [happen, send, isRunning, hr, Except.toOption]

theorem abort_of_running (hr : m.phase = .running) : m.abort = { m with phase := .aborted } := by
  rw [abort, hr]

theorem now_elapsed (m : Machine) (ms : Nat) :
    (m.happenAll (List.replicate ms tick).flatten).1.now = m.now + ms := by
  induction ms generalizing m with
  | zero => rfl
  | succ ms ih =>
    have htick : (m.happenAll tick).1.now = m.now + 1 :=
      (m.settle.1.advance 1).settle_now.trans (congrArg (· + 1) m.settle_now)
    rw [List.replicate_succ, List.flatten_cons, happenAll_append, ih, htick]
    omega

theorem now_happened (m : Machine) (k : Happening) :
    (m.happenAll k.ticking).1.now = m.now + k.span := by
  obtain hk | ⟨ms, rfl⟩ | rfl | ⟨c, rfl⟩ | rfl := k.cases_quiet
  · obtain ⟨hcalm, -⟩ := calm_of_isQuiet hk m
    obtain ⟨ht, hspan, -⟩ := k.of_isQuiet hk m.now
    rw [ht, hspan]
    exact hcalm.now
  · exact now_elapsed m ms
  · exact m.settle_now
  · show (m.happen (.send c)).1.now = m.now
    by_cases hr : m.phase = .running
    · rw [send_of_running hr]
    · rw [send_of_not_running hr]
  · show m.abort.now = m.now
    unfold abort
    split <;> rfl

/-! ## Machines that are alive -/

/-- There is a handle, and nobody has aborted the controller. -/
def Alive (m : Machine) : Prop := m.phase ≠ .aborted ∧ 0 < m.handles

instance (m : Machine) : Decidable m.Alive := inferInstanceAs (Decidable (_ ∧ _))

/-- Nothing brings a machine back. -/
theorem alive_of_happen {k : Happening} (h : (m.happen k).1.Alive) : m.Alive := by
  obtain hk | ⟨ms, rfl⟩ | rfl | ⟨c, rfl⟩ | rfl := k.cases_quiet
  · obtain ⟨hcalm, -⟩ := calm_of_isQuiet hk m
    exact ⟨hcalm.phase ▸ h.1, hcalm.handles h.2⟩
  · exact h
  · refine ⟨fun ha => h.1 ?_, m.settle_handles ▸ h.2⟩
    have hr : m.phase ≠ .running := by simp [ha]
    rw [happen, settle_of_not_running hr]
    exact ha
  · by_cases hr : m.phase = .running
    · rw [send_of_running hr] at h
      exact h
    · rw [send_of_not_running hr] at h
      exact h
  · by_cases hr : m.phase = .running
    · exact absurd (congrArg phase (abort_of_running hr)) h.1
    · rw [happen, abort] at h
      split at h
      · contradiction
      · exact h

theorem alive_of_happenAll {ks : List Happening} (h : (m.happenAll ks).1.Alive) : m.Alive := by
  induction ks generalizing m with
  | nil => exact h
  | cons k ks ih => exact alive_of_happen (ih h)

theorem alive_start (settings : Settings) : (start settings).1.Alive := by
  unfold start
  split <;> exact ⟨nofun, Nat.one_pos⟩

theorem Alive.settle {m : Machine} (h : m.Alive) : m.settle.1.Alive := by
  refine ⟨?_, m.settle_handles.symm ▸ h.2⟩
  by_cases hr : m.phase = .running
  · simp [settle_running hr h.2]
  · rw [settle_of_not_running hr]
    exact h.1

theorem Alive.elapse {m : Machine} (h : m.Alive) (ms : Nat) :
    (m.happenAll (List.replicate ms tick).flatten).1.Alive := by
  induction ms generalizing m with
  | zero => exact h
  | succ ms ih =>
    rw [List.replicate_succ, List.flatten_cons, happenAll_append]
    have hsettled : (m.settle.1.advance 1).Alive := h.settle
    exact ih hsettled.settle

theorem Alive.timed {m : Machine} (h : m.Alive) {hs : List Happening}
    (hall : ∀ k ∈ hs, k.isTimed = true) :
    (m.happenAll (hs.flatMap Happening.ticking)).1.Alive := by
  induction hs generalizing m with
  | nil => exact h
  | cons k hs ih =>
    obtain ⟨hk, hrest⟩ := List.forall_mem_cons.1 hall
    rw [List.flatMap_cons, happenAll_append]
    refine ih ?_ hrest
    cases k with
    | advance ms => exact h.elapse ms
    | send c =>
      show (m.happen (.send c)).1.Alive
      by_cases hr : m.phase = .running
      · rw [send_of_running hr]
        exact h
      · rw [send_of_not_running hr]
        exact h
    | _ => contradiction

end Machine

end ExtensionCatalogue.Sync
