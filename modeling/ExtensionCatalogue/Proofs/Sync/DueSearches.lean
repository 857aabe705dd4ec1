import Mathlib.Data.List.Chain
import ExtensionCatalogue.Sync.Controller

/-!
# Searches that are due

What search requests lead to when the debounce is read as a rule about requests: a request leads to
a search once the debounce has passed, unless a later request came before it had. Read forward in
time, only the last request matters: it is `awaited`, and with the tick of the clock that reaches
its deadline it has `expired` and adds one search to those that were due (`due_succ`).
-/

namespace ExtensionCatalogue.Sync

/-- A keyword, and the time at which a search for it is requested or made. -/
structure Search where
  time : Nat
  keyword : String
  deriving DecidableEq, Repr

/-- The search that a request leads to, once the debounce has passed and unless a later request
came before it had. -/
def Search.due? (debounce upTo : Nat) (r : Search) (later : List Search) : Option Search :=
  if r.time + debounce ≤ upTo ∧ ∀ q ∈ later, r.time + debounce ≤ q.time then
    some ⟨r.time + debounce, Text.trim r.keyword⟩
  else none

/-- The searches that requests lead to up to a time. -/
def due (debounce upTo : Nat) : List Search → List Search
  | [] => []
  | r :: rs => (r.due? debounce upTo rs).toList ++ due debounce upTo rs

/-- Requests each of which comes before the debounce of the one before has passed. -/
def Burst (debounce : Nat) (rs : List Search) : Prop :=
  rs.IsChain fun r q => q.time < r.time + debounce

variable {debounce upTo : Nat} {rs : List Search}

/-! ## Up to a time -/

theorem Search.due?_congr {r : Search} {upTo' : Nat} {later later' : List Search}
    (h : (r.time + debounce ≤ upTo ∧ ∀ q ∈ later, r.time + debounce ≤ q.time) ↔
      (r.time + debounce ≤ upTo' ∧ ∀ q ∈ later', r.time + debounce ≤ q.time)) :
    r.due? debounce upTo later = r.due? debounce upTo' later' := by
  simp only [due?, h]

theorem Search.filter_due? {upTo now : Nat} (h : upTo ≤ now) (r : Search) (rs : List Search) :
    (r.due? debounce now rs).toList.filter (·.time ≤ upTo) = (r.due? debounce upTo rs).toList := by
  unfold due?
  by_cases hr : r.time + debounce ≤ upTo
  · have hnow : r.time + debounce ≤ now := Nat.le_trans hr h
    simp only [hr, hnow, true_and]
    split
    · exact List.filter_cons_of_pos (by simpa using hr)
    · rfl
  · simp only [hr, false_and, if_false]
    split
    · exact List.filter_cons_of_neg (by simpa using hr)
    · rfl

/-- By an earlier time, the searches of that time have been made. -/
theorem filter_due (debounce : Nat) {upTo now : Nat} (h : upTo ≤ now) (rs : List Search) :
    (due debounce now rs).filter (·.time ≤ upTo) = due debounce upTo rs := by
  induction rs with
  | nil => rfl
  | cons r rs ih => rw [due, List.filter_append, Search.filter_due? h, ih, due]

/-- What is due from `earlier` has been made when the next request comes. -/
theorem due_append (debounce : Nat) {upTo : Nat} (earlier : List Search) {b : Search}
    (hb : b.time ≤ upTo) (hrs : ∀ q ∈ rs, b.time ≤ q.time) :
    due debounce upTo (earlier ++ b :: rs) =
      due debounce b.time earlier ++ due debounce upTo (b :: rs) := by
  induction earlier with
  | nil => rfl
  | cons r earlier ih =>
    have hiff : (r.time + debounce ≤ upTo ∧
        ∀ q ∈ earlier ++ b :: rs, r.time + debounce ≤ q.time) ↔
        (r.time + debounce ≤ b.time ∧ ∀ q ∈ earlier, r.time + debounce ≤ q.time) := by
      rw [List.forall_mem_append, List.forall_mem_cons]
      constructor
      · exact fun ⟨_, he, hrb, _⟩ => ⟨hrb, he⟩
      · exact fun ⟨hrb, he⟩ =>
          ⟨Nat.le_trans hrb hb, he, hrb, fun q hq => Nat.le_trans hrb (hrs q hq)⟩
    rw [List.cons_append, due, Search.due?_congr hiff, ih, ← List.append_assoc]
    rfl

/-- Of a burst only the last request leads to a search. -/
theorem due_burst {b last : Search} (h : Burst debounce (b :: rs))
    (hlast : (b :: rs).getLast (List.cons_ne_nil b rs) = last) (later : List Search) :
    due debounce upTo (b :: rs ++ later) = due debounce upTo (last :: later) := by
  induction rs generalizing b with
  | nil =>
    obtain rfl : b = last := hlast
    rfl
  | cons q rs ih =>
    obtain ⟨hlt, hrest⟩ := List.isChain_cons_cons.1 h
    have hnone : b.due? debounce upTo (q :: rs ++ later) = none := by
      refine if_neg fun hdue => ?_
      have := hdue.2 q List.mem_cons_self
      omega
    rw [List.cons_append, due, hnone]
    exact ih hrest ((List.getLast_cons_cons ..).symm.trans hlast)

/-- A burst among the requests leads to one search, with its last keyword. -/
theorem due_of_burst {earlier later : List Search} {b last : Search}
    (hsorted : (earlier ++ (b :: rs ++ later)).Pairwise fun r q => r.time ≤ q.time)
    (hburst : Burst debounce (b :: rs))
    (hlast : (b :: rs).getLast (List.cons_ne_nil b rs) = last)
    (hlater : ∀ q ∈ later, last.time + debounce ≤ q.time)
    (hupTo : last.time + debounce ≤ upTo) :
    due debounce upTo (earlier ++ (b :: rs ++ later)) =
      due debounce b.time earlier ++
        ⟨last.time + debounce, Text.trim last.keyword⟩ :: due debounce upTo later := by
  have hfirst : ∀ q ∈ rs ++ later, b.time ≤ q.time :=
    (List.pairwise_cons.1 (List.pairwise_append.1 hsorted).2.1).1
  have hmem : last ∈ b :: rs := hlast ▸ List.getLast_mem (List.cons_ne_nil b rs)
  have hb : b.time ≤ last.time := by
    rcases List.mem_cons.1 hmem with rfl | hmem
    · exact Nat.le_refl _
    · exact hfirst last (List.mem_append_left later hmem)
  rw [List.cons_append, due_append debounce earlier (by omega) hfirst, ← List.cons_append,
    due_burst hburst hlast, due, Search.due?, if_pos ⟨hupTo, hlater⟩]
  rfl

/-! ## As time passes -/

/-- What the last request makes the controller wait for. -/
def lastWaiting (debounce : Nat) (rs : List Search) : Option Waiting :=
  rs.getLast?.map fun r => ⟨r.time + debounce, r.keyword⟩

/-- What the controller waits for at a time. -/
def awaited (debounce now : Nat) (rs : List Search) : Option Waiting :=
  (lastWaiting debounce rs).filter (now < ·.deadline)

/-- The search made at a time if this has been waited for. -/
def expired (now : Nat) (w : Option Waiting) : List Search :=
  ((w.filter (·.deadline ≤ now)).map fun w => ⟨now, Text.trim w.keyword⟩).toList

theorem lastWaiting_append (debounce : Nat) (rs qs : List Search) :
    lastWaiting debounce (rs ++ qs) = (lastWaiting debounce qs).or (lastWaiting debounce rs) := by
  rw [lastWaiting, lastWaiting, lastWaiting, List.getLast?_append, Option.map_or]

/-- A request just sent is waited for. -/
theorem awaited_snoc (hd : 0 < debounce) (now : Nat) (rs : List Search) (keyword : String) :
    awaited debounce now (rs ++ [⟨now, keyword⟩]) = some ⟨now + debounce, keyword⟩ := by
  simp [awaited, lastWaiting, hd]

theorem filter_awaited {now later : Nat} (h : now ≤ later) (debounce : Nat) (rs : List Search) :
    (awaited debounce now rs).filter (later < ·.deadline) = awaited debounce later rs := by
  have hiff : (fun w : Waiting => decide (now < w.deadline) && decide (later < w.deadline)) =
      fun w => decide (later < w.deadline) := by
    funext w
    simp only [Bool.and_eq_right_iff_imp, decide_eq_true_eq]
    omega
  rw [awaited, Option.filter_filter, hiff, awaited]

theorem expired_awaited (debounce now : Nat) (rs : List Search) :
    expired now (awaited debounce now rs) = [] := by
  have hnone : (fun w : Waiting => decide (now < w.deadline) && decide (w.deadline ≤ now)) =
      fun _ => false := by
    funext w
    simp
  simp [expired, awaited, Option.filter_filter, hnone]

theorem awaited_cons_cons (debounce now : Nat) (r q : Search) (rs : List Search) :
    awaited debounce now (r :: q :: rs) = awaited debounce now (q :: rs) := by
  rw [awaited, lastWaiting, List.getLast?_cons_cons]
  rfl

/-- A request just sent leads to no search yet. -/
theorem due_snoc (hd : 0 < debounce) (now : Nat) (rs : List Search) (keyword : String) :
    due debounce now (rs ++ [⟨now, keyword⟩]) = due debounce now rs := by
  induction rs with
  | nil =>
    have hnot : ¬ now + debounce ≤ now := by omega
    simp [due, Search.due?, hnot]
  | cons r rs ih =>
    have hiff : (r.time + debounce ≤ now ∧
        ∀ q ∈ rs ++ [⟨now, keyword⟩], r.time + debounce ≤ q.time) ↔
        (r.time + debounce ≤ now ∧ ∀ q ∈ rs, r.time + debounce ≤ q.time) := by
      rw [List.forall_mem_append, List.forall_mem_singleton]
      exact ⟨fun ⟨hr, hall, _⟩ => ⟨hr, hall⟩, fun ⟨hr, hall⟩ => ⟨hr, hall, hr⟩⟩
    rw [List.cons_append, due, Search.due?_congr hiff, ih, due]

/-- The last request leads to a search with the tick that reaches its deadline. -/
theorem Search.due?_succ (debounce now : Nat) (r : Search) :
    (r.due? debounce (now + 1) []).toList =
      (r.due? debounce now []).toList ++ expired (now + 1) (awaited debounce now [r]) := by
  have hdue : ∀ upTo, r.due? debounce upTo [] =
      if r.time + debounce ≤ upTo then some ⟨r.time + debounce, Text.trim r.keyword⟩ else none := by
    simp [due?]
  rw [hdue, hdue, expired, awaited, lastWaiting, List.getLast?_singleton, Option.map_some]
  generalize r.time + debounce = deadline
  rcases Nat.lt_trichotomy deadline (now + 1) with hlt | rfl | hgt
  · have hle : deadline ≤ now := Nat.le_of_lt_succ hlt
    simp [Option.filter_some, hle, Nat.le_succ_of_le hle, Nat.not_lt.2 hle]
  · rw [if_neg (Nat.not_succ_le_self now)]
    simp [Option.filter_some]
  · have hlt : now < deadline := Nat.lt_of_succ_lt hgt
    simp [Option.filter_some, hlt, Nat.not_le.2 hlt, Nat.not_le.2 hgt]

/-- With a tick, the search that has been waited for may come. -/
theorem due_succ (debounce : Nat) {now : Nat} (h : ∀ r ∈ rs, r.time ≤ now) :
    due debounce (now + 1) rs =
      due debounce now rs ++ expired (now + 1) (awaited debounce now rs) := by
  induction rs with
  | nil => rfl
  | cons r rs ih =>
    obtain ⟨hr, hrs⟩ := List.forall_mem_cons.1 h
    rw [due]
    cases rs with
    | nil => simp only [due, r.due?_succ, List.append_nil]
    | cons q rs =>
      have hq : q.time ≤ now := (List.forall_mem_cons.1 hrs).1
      have hiff : (r.time + debounce ≤ now + 1 ∧ ∀ q' ∈ q :: rs, r.time + debounce ≤ q'.time) ↔
          (r.time + debounce ≤ now ∧ ∀ q' ∈ q :: rs, r.time + debounce ≤ q'.time) := by
        refine and_congr_left fun hall => ?_
        have := hall q List.mem_cons_self
        omega
      rw [Search.due?_congr hiff, ih hrs, awaited_cons_cons, ← List.append_assoc]
      rfl

end ExtensionCatalogue.Sync
