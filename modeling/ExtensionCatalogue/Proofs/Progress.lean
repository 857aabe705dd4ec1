import ExtensionCatalogue.Progress
import ExtensionCatalogue.Proofs.Progress.Records

/-!
# Percentages of counts

A tracker passes on a percentage if it is above the latest one, so its state is told by what it has
passed on (`last_after`). With a known total it passes on the records among the percentages
(`reports_eq_records`), which increase strictly, and remembers the greatest one (`last_eq_max?`). A
percentage is the exact share of a count that `Fits` (`percent_eq_share`), as every count does for
totals up to a hundredth of the largest count.
-/

namespace ExtensionCatalogue.PercentTracker

/-- The share of `total` in `received` in whole percents, at most a hundred. -/
def share (total received : UInt64) : Nat :=
  min 100 (100 * received.toNat / total.toNat)

/-- The hundredfold of the total is a count, or the hundredfold of `received` stays below the first
multiple of the total that is none. -/
def Fits (total received : UInt64) : Prop :=
  100 * total.toNat ≤ largestCount ∨
    100 * received.toNat < total.toNat * (largestCount / total.toNat + 1)

instance (total received : UInt64) : Decidable (Fits total received) :=
  inferInstanceAs (Decidable (_ ∨ _))

/-! ## One count -/

section

variable {total received : UInt64}

theorem percent_mono {received' : UInt64} (h : received ≤ received') :
    percent total received ≤ percent total received' := by
  have hle : received.toNat ≤ received'.toNat := UInt64.le_iff_toNat_le.1 h
  have hproduct : min (received.toNat * 100) largestCount ≤
      min (received'.toNat * 100) largestCount := by omega
  have hshare := Nat.div_le_div_right (c := total.toNat) hproduct
  unfold percent
  omega

theorem toNat_pos (h : total ≠ 0) : 0 < total.toNat :=
  Nat.pos_of_ne_zero fun h0 => h (UInt64.toNat_inj.1 h0)

theorem share_le (total received : UInt64) : share total received ≤ 100 :=
  Nat.min_le_left ..

theorem share_of_le (h : total ≠ 0) (hle : total ≤ received) : share total received = 100 := by
  have hreceived : total.toNat ≤ received.toNat := UInt64.le_iff_toNat_le.1 hle
  have hall : 100 ≤ 100 * received.toNat / total.toNat :=
    (Nat.le_div_iff_mul_le (toNat_pos h)).2 (Nat.mul_le_mul_left 100 hreceived)
  exact Nat.min_eq_left hall

theorem percent_eq_share (h : Fits total received) :
    percent total received = share total received := by
  unfold percent share
  by_cases hproduct : received.toNat * 100 ≤ largestCount
  · rw [Nat.min_eq_left hproduct, Nat.mul_comm, Nat.min_comm]
  · -- the product stops at the largest count, which has no greater share
    have hstop : min (received.toNat * 100) largestCount = largestCount := by omega
    rw [hstop]
    have hstopped : largestCount / total.toNat ≤ 100 * received.toNat / total.toNat :=
      Nat.div_le_div_right (by omega)
    rcases h with hsmall | hbelow
    · rcases Nat.eq_zero_or_pos total.toNat with hzero | hpos
      · rw [hzero, Nat.div_zero, Nat.div_zero, Nat.min_comm]
      · have hall : 100 ≤ largestCount / total.toNat :=
          (Nat.le_div_iff_mul_le hpos).2 hsmall
        omega
    · have hsame := Nat.div_lt_of_lt_mul hbelow
      omega

/-- The share of a count that does not fit is above every percentage. -/
theorem percent_lt_share (h : total ≠ 0) (hfits : ¬ Fits total received) (q : UInt64) :
    percent total q < share total received := by
  obtain ⟨hlarge, habove⟩ := not_or.1 hfits
  have hstopped : percent total q ≤ largestCount / total.toNat :=
    Nat.le_trans (Nat.min_le_left ..) (Nat.div_le_div_right (Nat.min_le_right ..))
  have hpart : largestCount / total.toNat < 100 :=
    (Nat.div_lt_iff_lt_mul (toNat_pos h)).2 (by omega)
  have hnext : largestCount / total.toNat + 1 ≤ 100 * received.toNat / total.toNat :=
    (Nat.le_div_iff_mul_le (toNat_pos h)).2 (Nat.mul_comm .. ▸ Nat.le_of_not_lt habove)
  unfold share
  omega

theorem percent_eq (htotal : total.toNat ≤ largestCount / 100) (h : received ≤ total) :
    percent total received = 100 * received.toNat / total.toNat := by
  have hle : received.toNat ≤ total.toNat := UInt64.le_iff_toNat_le.1 h
  have hfits : Fits total received := .inl (by omega)
  have hshare : 100 * received.toNat / total.toNat ≤ 100 := by
    refine Nat.div_le_of_le_mul ?_
    rw [Nat.mul_comm total.toNat]
    exact Nat.mul_le_mul_left 100 hle
  rw [percent_eq_share hfits, share, Nat.min_eq_right hshare]

/-- A hundred is not reached before the total. -/
theorem le_of_percent_eq (h : percent total received = 100) : total ≤ received := by
  have hshare : 100 ≤ received.toNat * 100 / total.toNat := by
    have hproduct := Nat.div_le_div_right (c := total.toNat)
      (Nat.min_le_left (received.toNat * 100) largestCount)
    unfold percent at h
    omega
  have hle : 100 * total.toNat ≤ received.toNat * 100 :=
    Nat.le_trans (Nat.mul_le_mul_right total.toNat hshare) (Nat.div_mul_le_self _ _)
  rw [UInt64.le_iff_toNat_le]
  omega

end

section

variable {t : PercentTracker} {total r : UInt64}

theorem advance_of_unknown (h : t.total = none) : t.advance r = (none, t) := by
  rw [advance, h]

/-- With a known total, the next percentage is passed on if it is a record. -/
theorem advance_of_known (htotal : t.total = some total) : t.advance r =
    (if t.last.all (· < percent total r) then some (percent total r) else none,
      { t with last := latest id t.last (percent total r) }) := by
  obtain ⟨_, last⟩ := t
  obtain rfl : _ = some total := htotal
  cases last with
  | none => rfl
  | some last =>
    by_cases h : percent total r ≤ last
    · simp [advance, latest, h, Nat.not_lt_of_le h]
    · simp [advance, latest, h, Nat.lt_of_not_le h]

theorem advance_cases (t : PercentTracker) (r : UInt64) :
    t.advance r = (none, t) ∨ ∃ p, t.advance r = (some p, { t with last := some p }) := by
  unfold advance
  split
  · exact .inl rfl
  · dsimp only
    split
    · exact .inl rfl
    · exact .inr ⟨_, rfl⟩

end

/-! ## One count after the other -/

/-- The tracker after some counts. -/
def after (t : PercentTracker) (counts : List UInt64) : PercentTracker :=
  counts.foldl (fun t r => (t.advance r).2) t

theorem after_concat (t : PercentTracker) (rs : List UInt64) (r : UInt64) :
    t.after (rs ++ [r]) = ((t.after rs).advance r).2 :=
  List.foldl_append ..

theorem reports_append (t : PercentTracker) (rs ss : List UInt64) :
    t.reports (rs ++ ss) = t.reports rs ++ (t.after rs).reports ss := by
  induction rs generalizing t with
  | nil => rfl
  | cons r rs ih =>
    show (t.advance r).1.toList ++ (t.advance r).2.reports (rs ++ ss) =
      ((t.advance r).1.toList ++ (t.advance r).2.reports rs) ++ _
    rw [ih, List.append_assoc]
    rfl

theorem reports_concat (t : PercentTracker) (rs : List UInt64) (r : UInt64) :
    t.reports (rs ++ [r]) = t.reports rs ++ ((t.after rs).advance r).1.toList := by
  rw [reports_append]
  exact congrArg _ (List.append_nil _)

theorem total_after (t : PercentTracker) (rs : List UInt64) : (t.after rs).total = t.total := by
  induction rs using List.reverseRecOn with
  | nil => rfl
  | append_singleton rs r ih =>
    rw [after_concat]
    rcases (t.after rs).advance_cases r with h | ⟨p, h⟩ <;> rw [h, ← ih]

/-- What was passed on last is remembered. -/
theorem last_after (t : PercentTracker) (rs : List UInt64) :
    (t.after rs).last = (t.reports rs).getLast?.or t.last := by
  induction rs using List.reverseRecOn with
  | nil => rfl
  | append_singleton rs r ih =>
    rw [after_concat, reports_concat]
    rcases (t.after rs).advance_cases r with h | ⟨p, h⟩
    · rw [h, ih, Option.toList_none, List.append_nil]
    · rw [h, Option.toList_some, List.getLast?_concat]
      rfl

theorem reports_of_unknown {t : PercentTracker} (h : t.total = none) (rs : List UInt64) :
    t.reports rs = [] := by
  induction rs using List.reverseRecOn with
  | nil => rfl
  | append_singleton rs r ih =>
    rw [reports_concat, ih, advance_of_unknown ((t.total_after rs).trans h)]
    rfl

/-! ## A known total -/

theorem total_start_iff {announced : Option UInt64} {total : UInt64} :
    (start announced).total = some total ↔ announced = some total ∧ total ≠ 0 := by
  rw [start, Option.filter_eq_some_iff, decide_eq_true_eq]

section

variable {t : PercentTracker} {total : UInt64} (htotal : t.total = some total)
  (hfresh : t.last = none)

include htotal hfresh

/-- The tracker remembers the latest record. -/
theorem last_eq_latest (rs : List UInt64) :
    (t.after rs).last = (rs.map (percent total)).foldl (latest id) none := by
  induction rs using List.reverseRecOn with
  | nil => exact hfresh
  | append_singleton rs r ih =>
    rw [after_concat, advance_of_known ((t.total_after rs).trans htotal), ih, List.map_append,
      List.foldl_append]
    rfl

/-- The tracker remembers the greatest percentage. -/
theorem last_eq_max? (rs : List UInt64) :
    (t.after rs).last = (rs.map (percent total)).max? := by
  have h := rank_foldl_latest id (rs.map (percent total))
  rwa [Option.map_id_apply, List.map_id, ← last_eq_latest htotal hfresh] at h

/-- A percentage is passed on if it is above all earlier ones. -/
theorem advance_fst (rs : List UInt64) (r : UInt64) : ((t.after rs).advance r).1 =
    if rs.all (percent total · < percent total r) then some (percent total r) else none := by
  have hall : (t.after rs).last.all (· < percent total r) =
      rs.all (percent total · < percent total r) := by
    rw [last_eq_latest htotal hfresh]
    exact (all_foldl_latest id _ _).trans List.all_map
  rw [advance_of_known ((t.total_after rs).trans htotal), hall]

theorem reports_eq_records (rs : List UInt64) :
    t.reports rs = records id (rs.map (percent total)) := by
  induction rs using List.reverseRecOn with
  | nil => rfl
  | append_singleton rs r ih =>
    rw [reports_concat, ih, advance_fst htotal hfresh, List.map_append, List.map_singleton,
      records_concat, List.all_map]
    rfl

theorem reports_increasing (rs : List UInt64) : (t.reports rs).Pairwise (· < ·) := by
  have h := records_increasing id (rs.map (percent total))
  rwa [List.map_id, ← reports_eq_records htotal hfresh] at h

theorem exists_of_mem_reports {rs : List UInt64} {p : Nat} (h : p ∈ t.reports rs) :
    ∃ r ∈ rs, p = percent total r := by
  rw [reports_eq_records htotal hfresh] at h
  obtain ⟨r, hr, hp⟩ := List.mem_map.1 ((records_sublist id _).subset h)
  exact ⟨r, hr, hp.symm⟩

/-- Of a count, the percentage is passed on if it is above the latest one. -/
theorem reports_concat_cases (rs : List UInt64) (r : UInt64) :
    ((∃ last ∈ (t.reports rs).getLast?, percent total r ≤ last) ∧
      t.reports (rs ++ [r]) = t.reports rs) ∨
    ((∀ last ∈ (t.reports rs).getLast?, last < percent total r) ∧
      t.reports (rs ++ [r]) = t.reports rs ++ [percent total r]) := by
  have hmemory : (t.after rs).last = (t.reports rs).getLast? := by
    rw [last_after, hfresh, Option.or_none]
  rw [reports_concat, advance_of_known ((t.total_after rs).trans htotal), hmemory]
  cases (t.reports rs).getLast? with
  | none => exact .inr ⟨nofun, rfl⟩
  | some last =>
    by_cases h : percent total r ≤ last
    · exact .inl ⟨⟨last, rfl, h⟩, by simp [Nat.not_lt_of_le h]⟩
    · have hlt : last < percent total r := Nat.lt_of_not_le h
      exact .inr ⟨by simpa using hlt, by simp [hlt]⟩

/-- After the greatest count so far, the latest percentage passed on is the one of that count. -/
theorem getLast?_reports {rs : List UInt64} {r : UInt64} (h : ∀ r' ∈ rs, r' ≤ r) :
    (t.reports (rs ++ [r])).getLast? = some (percent total r) := by
  rcases reports_concat_cases htotal hfresh rs r with ⟨⟨last, hlast, hle⟩, heq⟩ | ⟨-, heq⟩
  · obtain ⟨r', hr', rfl⟩ := exists_of_mem_reports htotal hfresh (List.mem_of_getLast? hlast)
    rw [heq, hlast, Nat.le_antisymm hle (percent_mono (h r' hr'))]
  · rw [heq, List.getLast?_concat]

end

end ExtensionCatalogue.PercentTracker
