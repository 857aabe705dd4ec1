import Mathlib.Data.List.Induction
import Mathlib.Data.List.Nodup

/-!
# Records

An element of a list is a record if its rank is above the ranks of all elements before it. The
ranks of the records increase strictly (`records_increasing`), so there are no more records than
ranks (`length_records_le`). The latest record is all there is to remember: its rank is the greatest
so far (`rank_foldl_latest`), so it tells whether the next element is a record
(`all_foldl_latest`).
-/

namespace ExtensionCatalogue

section

variable {α : Type} (rank : α → Nat)

/-! ## The records of a list -/

/-- The elements with a rank above the ranks of all elements before them. -/
def records (xs : List α) : List α :=
  (List.range xs.length).filterMap fun i =>
    xs[i]?.filter fun x => (xs.take i).all (rank · < rank x)

theorem records_concat (xs : List α) (x : α) : records rank (xs ++ [x]) =
    records rank xs ++ (if xs.all (rank · < rank x) then some x else none).toList := by
  unfold records
  rw [List.length_append, List.length_singleton, List.range_succ, List.filterMap_append]
  congr 1
  · refine List.filterMap_congr fun i hi => ?_
    have hlt : i < xs.length := List.mem_range.1 hi
    rw [List.getElem?_append_left hlt, List.take_append_of_le_length (Nat.le_of_lt hlt)]
  · rw [List.filterMap_cons, List.getElem?_concat_length, List.take_left, Option.filter_some]
    cases xs.all (rank · < rank x) <;> rfl

theorem records_sublist (xs : List α) : (records rank xs).Sublist xs := by
  induction xs using List.reverseRecOn with
  | nil => exact List.nil_sublist _
  | append_singleton xs x ih =>
    rw [records_concat]
    refine ih.append ?_
    split
    · exact List.Sublist.refl _
    · exact List.nil_sublist _

theorem records_increasing (xs : List α) : ((records rank xs).map rank).Pairwise (· < ·) := by
  rw [List.pairwise_map]
  induction xs using List.reverseRecOn with
  | nil => exact .nil
  | append_singleton xs x ih =>
    rw [records_concat]
    split
    · rename_i h
      refine List.pairwise_append.2 ⟨ih, List.pairwise_singleton .., fun y hy z hz => ?_⟩
      rw [List.mem_singleton.1 hz]
      exact of_decide_eq_true (List.all_eq_true.1 h y ((records_sublist rank xs).subset hy))
    · rwa [Option.toList_none, List.append_nil]

theorem length_records_le {xs : List α} {bound : Nat} (h : ∀ x ∈ xs, rank x ≤ bound) :
    (records rank xs).length ≤ bound + 1 := by
  have hdistinct : ((records rank xs).map rank).Nodup :=
    (records_increasing rank xs).imp Nat.ne_of_lt
  have hranks : (records rank xs).map rank ⊆ List.range (bound + 1) := by
    intro n hn
    obtain ⟨x, hx, rfl⟩ := List.mem_map.1 hn
    exact List.mem_range.2 (Nat.lt_succ_of_le (h x ((records_sublist rank xs).subset hx)))
  simpa using hdistinct.length_le_of_subset hranks

/-! ## The latest record -/

/-- The latest record once `x` has come after all else. -/
def latest (last : Option α) (x : α) : Option α :=
  if last.all (rank · < rank x) then some x else last

theorem all_latest (last : Option α) (x : α) (n : Nat) :
    (latest rank last x).all (rank · < n) = (last.all (rank · < n) && decide (rank x < n)) := by
  cases last with
  | none => simp [latest]
  | some y =>
    -- of `x` and the latest record, the one kept has the greater rank and bounds the other
    by_cases h : rank y < rank x
    · simpa [latest, h] using Nat.lt_trans h
    · simpa [latest, h] using Nat.lt_of_le_of_lt (Nat.le_of_not_lt h)

theorem rank_latest (last : Option α) (x : α) :
    (latest rank last x).map rank = max (last.map rank) (some (rank x)) := by
  cases last with
  | none => rfl
  | some y =>
    by_cases h : rank y < rank x
    · simp [latest, h, Nat.max_eq_right (Nat.le_of_lt h)]
    · simp [latest, h, Nat.max_eq_left (Nat.le_of_not_lt h)]

/-- The latest record is below what all elements are below, so the elements that it did not give way
to need not be remembered. -/
theorem all_foldl_latest (xs : List α) (n : Nat) :
    (xs.foldl (latest rank) none).all (rank · < n) = xs.all (rank · < n) := by
  induction xs using List.reverseRecOn with
  | nil => rfl
  | append_singleton xs x ih =>
    rw [List.foldl_append, List.foldl_cons, List.foldl_nil, all_latest, ih, List.all_append,
      List.all_cons, List.all_nil, Bool.and_true]

theorem max?_concat (ns : List Nat) (n : Nat) : (ns ++ [n]).max? = max ns.max? (some n) := by
  cases ns with
  | nil => rfl
  | cons m ns =>
    rw [List.cons_append, List.max?_cons', List.max?_cons', List.foldl_append]
    rfl

theorem rank_foldl_latest (xs : List α) :
    (xs.foldl (latest rank) none).map rank = (xs.map rank).max? := by
  induction xs using List.reverseRecOn with
  | nil => rfl
  | append_singleton xs x ih =>
    rw [List.foldl_append, List.foldl_cons, List.foldl_nil, rank_latest, ih, List.map_append,
      List.map_singleton, max?_concat]

end

end ExtensionCatalogue
