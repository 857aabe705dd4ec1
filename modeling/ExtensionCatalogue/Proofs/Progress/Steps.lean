import ExtensionCatalogue.CommandLine.Run
import ExtensionCatalogue.Proofs.Progress.Records

/-!
# Steps of ten

A log remembers the last percentage that it has a line for. That is the latest record of all
percentages so far, ranked by their steps of ten (`last_after`), also of those without a line. So
the log has a line for each record and for nothing else (`logs_new_steps`), and there are few lines
however long an install takes.
-/

namespace ExtensionCatalogue.ProgressLog

open CommandLine (progressNotices)

/-! ## One percentage after the other -/

/-- A report in the terms of records: a line for a record, and the latest record remembered. -/
theorem report_eq (l : ProgressLog) (p : Nat) : l.report p =
    (if l.last.all (· / 10 < p / 10) then some (.progress l.name p) else none,
      { l with last := latest (· / 10) l.last p }) := by
  unfold report latest
  split <;> rfl

/-- The log after some percentages. -/
def after (l : ProgressLog) (ps : List Nat) : ProgressLog :=
  ps.foldl (fun l p => (l.report p).2) l

theorem after_eq (l : ProgressLog) (ps : List Nat) :
    l.after ps = { l with last := ps.foldl (latest (· / 10)) l.last } := by
  induction ps generalizing l with
  | nil => rfl
  | cons p ps ih =>
    show (l.report p).2.after ps = _
    rw [ih, report_eq]
    rfl

theorem progressNotices_append (l : ProgressLog) (ps qs : List Nat) :
    progressNotices l (ps ++ qs) = progressNotices l ps ++ progressNotices (l.after ps) qs := by
  induction ps generalizing l with
  | nil => rfl
  | cons p ps ih =>
    show (l.report p).1.toList ++ progressNotices (l.report p).2 (ps ++ qs) =
      ((l.report p).1.toList ++ progressNotices (l.report p).2 ps) ++ _
    rw [ih, List.append_assoc]
    rfl

theorem progressNotices_concat (l : ProgressLog) (ps : List Nat) (p : Nat) :
    progressNotices l (ps ++ [p]) = progressNotices l ps ++ ((l.after ps).report p).1.toList := by
  rw [progressNotices_append]
  exact congrArg _ (List.append_nil _)

/-! ## From the start -/

section

variable (name : String) (ps : List Nat)

/-- The log remembers the greatest step. -/
theorem last_after : ((start name).after ps).last.map (· / 10) = (ps.map (· / 10)).max? := by
  rw [after_eq]
  exact rank_foldl_latest (· / 10) ps

/-- A percentage has a line if its step is above the steps of all before it. -/
theorem report_fst (p : Nat) : (((start name).after ps).report p).1 =
    if ps.all (· / 10 < p / 10) then some (.progress name p) else none := by
  rw [report_eq, after_eq, ← all_foldl_latest (· / 10)]
  rfl

theorem progressNotices_start :
    progressNotices (start name) ps = (records (· / 10) ps).map (.progress name) := by
  induction ps using List.reverseRecOn with
  | nil => rfl
  | append_singleton ps p ih =>
    rw [progressNotices_concat, records_concat, List.map_append, ih, report_fst]
    split <;> rfl

end

/-- A log has a line for a percentage if its step of ten is above the steps of all percentages
before it, and no other line. -/
structure LogsNewSteps (name : String) (ps : List Nat) : Prop where
  each : ∀ earlier p later, ps = earlier ++ p :: later →
    (((start name).after earlier).report p).1.map Notice.line =
      if earlier.all (· / 10 < p / 10) then some s!"INFO {name}: {p}%" else none
  remembers : ((start name).after ps).last.map (· / 10) = (ps.map (· / 10)).max?
  whole : progressNotices (start name) ps = (records (· / 10) ps).map (.progress name)
  increasing : ((records (· / 10) ps).map (· / 10)).Pairwise (· < ·)
  few : (∀ p ∈ ps, p ≤ 100) → (progressNotices (start name) ps).length ≤ 11

/-- **Each new step of ten has one line**, whatever the order of the percentages, and up to a
hundred there are at most eleven of them. -/
theorem logs_new_steps (name : String) (ps : List Nat) : LogsNewSteps name ps where
  each := by
    rintro earlier p later rfl
    rw [report_fst]
    split <;> rfl
  remembers := last_after name ps
  whole := progressNotices_start name ps
  increasing := records_increasing (· / 10) ps
  few h := by
    rw [progressNotices_start, List.length_map]
    exact length_records_le (· / 10) fun p hp => Nat.div_le_div_right (h p hp)

/-- With regressions and repetitions, and with a line for every step. -/
theorem logs_new_steps_unordered :
    let ps := [5, 8, 19, 12, 25, 30, 28, 47, 50, 9, 61, 79, 70, 83, 90, 83, 100, 99, 100]
    (∀ p ∈ ps, p ≤ 100) ∧ LogsNewSteps "mesh" ps ∧
      records (· / 10) ps = [5, 19, 25, 30, 47, 50, 61, 79, 83, 90, 100] ∧
      (progressNotices (start "mesh") ps).length ≤ 11 := by
  intro ps
  have hpercent : ∀ p ∈ ps, p ≤ 100 := by decide
  exact ⟨hpercent, logs_new_steps "mesh" ps, by decide, (logs_new_steps "mesh" ps).few hpercent⟩

end ExtensionCatalogue.ProgressLog
