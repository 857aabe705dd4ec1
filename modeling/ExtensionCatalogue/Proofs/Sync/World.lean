import ExtensionCatalogue.Proofs.Sync.Turn
import Mathlib.Data.List.Induction

/-!
# Runs of the controller

A `World` is a controller together with the calls underway, those it has made and whose answer it
has not handled, and the record of its turns, the latest first. A `Move` is what happens next: a
request, the end of the wait, a report of an install, or the answer to a call. Moves come in any
order, and one that is not possible changes nothing, so every list of moves is a run: each call
reports before its answer and is answered at most once. A machine with its clock and its queues
plays such runs, as `history_plays` shows.
-/

namespace ExtensionCatalogue.Sync

/-- The answer to a call. -/
inductive Answer where
  | search (generation : Nat) (keyword : String) (result : Except Failure (List Package))
  | operation (operation : Operation) (package : Package) (result : Except Failure Unit)

namespace Answer

def call : Answer → Call
  | search generation keyword _ => .search generation keyword
  | operation o p _ => .operation o p

def completion : Answer → Completion
  | search generation keyword result => .search generation keyword result
  | operation o p result => .operation o p.id p.name result

def input (a : Answer) : Input := .completion a.completion

end Answer

inductive Move where
  | request (c : Command) (now : Nat)
  | expiry
  /-- An install reports how far it has come. -/
  | report (p : Package) (percent : Nat)
  | answer (a : Answer)

/-- What the controller is given. -/
def Move.input : Move → Input
  | request c now => .command c now
  | expiry => .expiry
  | report p percent => .completion (.progress p.id percent)
  | answer a => a.input

/-- A turn of the controller. The first one, at the start, has no input. -/
structure Turn where
  input : Option Input
  effects : List Effect

structure World where
  state : State
  underway : List Call
  record : List Turn

namespace World

/-- Only a call underway reports or is answered. -/
def Possible (w : World) : Move → Prop
  | .request _ _ | .expiry => True
  | .report p _ => .operation .install p ∈ w.underway
  | .answer a => a.call ∈ w.underway

instance : (w : World) → (m : Move) → Decidable (w.Possible m)
  | _, .request _ _ | _, .expiry => inferInstanceAs (Decidable True)
  | w, .report p _ => inferInstanceAs (Decidable (.operation .install p ∈ w.underway))
  | w, .answer a => inferInstanceAs (Decidable (a.call ∈ w.underway))

/-- The calls that a move leaves underway. -/
def left (w : World) : Move → List Call
  | .answer a => w.underway.erase a.call
  | _ => w.underway

@[simp] theorem left_request (w : World) (c : Command) (now : Nat) :
    w.left (.request c now) = w.underway := rfl

@[simp] theorem left_expiry (w : World) : w.left .expiry = w.underway := rfl

@[simp] theorem left_report (w : World) (p : Package) (percent : Nat) :
    w.left (.report p percent) = w.underway := rfl

@[simp] theorem left_answer (w : World) (a : Answer) :
    w.left (.answer a) = w.underway.erase a.call := rfl

/-- What the controller has done, in order. -/
def effects (w : World) : List Effect := w.record.reverse.flatMap (·.effects)

/-- The world after a turn with the given outcome. -/
def turned (w : World) (m : Move) (s : State) (es : List Effect) : World :=
  ⟨s, w.left m ++ calls es, ⟨some m.input, es⟩ :: w.record⟩

@[simp] theorem effects_turned (w : World) (m : Move) (s : State) (es : List Effect) :
    (w.turned m s es).effects = w.effects ++ es := by
  simp [effects, turned]

def move (debounce : Nat) (w : World) (m : Move) : World :=
  if w.Possible m then
    let (s, es) := w.state.step debounce m.input
    w.turned m s es
  else w

def play (debounce : Nat) (w : World) (ms : List Move) : World := ms.foldl (move debounce) w

/-- A new controller, which searches everything at once if `load` says so. -/
def start (load : Bool) : World :=
  let (s, es) := if load then State.initial.fire "" else (.initial, [])
  ⟨s, calls es, [⟨none, es⟩]⟩

/-- The world after a run from the start. -/
def after (debounce : Nat) (load : Bool) (ms : List Move) : World := (start load).play debounce ms

variable {debounce : Nat} {w : World}

theorem play_append (ms ns : List Move) :
    w.play debounce (ms ++ ns) = (w.play debounce ms).play debounce ns :=
  List.foldl_append

theorem move_of_not_possible {m : Move} (h : ¬ w.Possible m) : w.move debounce m = w := if_neg h

theorem move_of_possible {m : Move} (h : w.Possible m) :
    w.move debounce m =
      w.turned m (w.state.step debounce m.input).1 (w.state.step debounce m.input).2 := if_pos h

/-- What each rule keeps, every move keeps. -/
theorem move_keeps {P : World → Prop} {m : Move} (h : P w)
    (hturn : ∀ s es, w.Possible m → w.state.Rule debounce m.input s es → P (w.turned m s es)) :
    P (w.move debounce m) := by
  by_cases hm : w.Possible m
  · rw [move_of_possible hm]
    exact hturn _ _ hm (State.rule_step debounce w.state m.input)
  · rw [move_of_not_possible hm]
    exact h

/-- What each rule keeps, every list of moves keeps. -/
theorem play_keeps {P : World → Prop}
    (hturn : ∀ w m s es, P w → w.Possible m → w.state.Rule debounce m.input s es →
      P (w.turned m s es)) (h : P w) (ms : List Move) : P (w.play debounce ms) := by
  induction ms generalizing w with
  | nil => exact h
  | cons m ms ih => exact ih (move_keeps h fun s es => hturn w m s es h)

/-- What holds at the start and is kept by each rule holds after every run. -/
theorem after_keeps {P : World → Prop} (hstart : ∀ load, P (start load))
    (hturn : ∀ w m s es, P w → w.Possible m → w.state.Rule debounce m.input s es →
      P (w.turned m s es)) (load : Bool) (ms : List Move) : P (after debounce load ms) :=
  play_keeps hturn (hstart load) ms

/-! ## Earlier runs -/

theorem after_concat (debounce : Nat) (load : Bool) (ms : List Move) (m : Move) :
    after debounce load (ms ++ [m]) = (after debounce load ms).move debounce m := by
  rw [after, play_append]
  rfl

/-- The record of a run goes back to the records of shorter runs. -/
theorem run_of_suffix {debounce : Nat} {load : Bool} {ms : List Move} {rest past : List Turn}
    (h : (after debounce load ms).record = rest ++ past) (hpast : past ≠ []) :
    ∃ ns, (after debounce load ns).record = past := by
  induction ms using List.reverseRecOn generalizing rest with
  | nil =>
    cases rest with
    | nil => exact ⟨[], h⟩
    | cons t rest =>
      obtain ⟨-, hnil⟩ := List.cons.inj h
      exact absurd (List.append_eq_nil_iff.1 hnil.symm).2 hpast
  | append_singleton ms m ih =>
    rw [after_concat] at h
    by_cases hm : (after debounce load ms).Possible m
    · cases rest with
      | nil =>
        refine ⟨ms ++ [m], ?_⟩
        rw [after_concat]
        exact h
      | cons t rest =>
        rw [move_of_possible hm] at h
        exact ih (List.cons.inj h).2
    · rw [move_of_not_possible hm] at h
      exact ih h

/-- A turn of a run is the first one, or that of a move after a shorter run. -/
theorem start_or_move_of_turn {debounce : Nat} {load : Bool} {ms : List Move} {t : Turn}
    {rest past : List Turn} (h : (after debounce load ms).record = rest ++ t :: past) :
    (start load).record = t :: past ∨
      ∃ ns m s es, (after debounce load ns).record = past ∧ (after debounce load ns).Possible m ∧
        (after debounce load ns).state.Rule debounce m.input s es ∧ t = ⟨some m.input, es⟩ := by
  obtain ⟨ns, hns⟩ := run_of_suffix h (List.cons_ne_nil t past)
  induction ns using List.reverseRecOn with
  | nil => exact .inl hns
  | append_singleton ns m ih =>
    rw [after_concat] at hns
    by_cases hm : (after debounce load ns).Possible m
    · rw [move_of_possible hm] at hns
      obtain ⟨rfl, hrest⟩ := List.cons.inj hns
      exact .inr ⟨ns, m, _, _, hrest, hm, State.rule_step debounce _ m.input, rfl⟩
    · rw [move_of_not_possible hm] at hns
      exact ih hns

end World

end ExtensionCatalogue.Sync
