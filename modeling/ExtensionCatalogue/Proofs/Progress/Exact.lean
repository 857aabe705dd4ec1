import ExtensionCatalogue.Proofs.Progress
import Mathlib.Order.Basic

/-!
# Exact tracking

A tracker remembers the greatest of all percentages and passes one on if it is above all earlier
ones, in any order of the counts. So it is exact where every percentage is the exact share, which is
just where every count fits (`exact_iff_fits`).
-/

namespace ExtensionCatalogue.PercentTracker

/-- On each of the counts a tracker passes on the exact share if it is above all earlier shares,
and it remembers the greatest share so far, which is a hundred once the total is reached. -/
structure Exact (total : UInt64) (rs : List UInt64) : Prop where
  passesOn : ∀ earlier r later, rs = earlier ++ r :: later →
    (((start (some total)).after earlier).advance r).1 =
      if earlier.all (share total · < share total r) then some (share total r) else none
  remembers : ∀ earlier, earlier <+: rs →
    ((start (some total)).after earlier).last = (earlier.map (share total)).max?
  completes : ∀ earlier, earlier <+: rs → (∃ r ∈ earlier, total ≤ r) →
    ((start (some total)).after earlier).last = some 100

section

variable {total : UInt64} {rs : List UInt64} (h : total ≠ 0)

include h

/-- A count that reaches the total has the greatest share that there is. -/
theorem max?_share {r : UInt64} (hr : r ∈ rs) (hreached : total ≤ r) :
    (rs.map (share total)).max? = some 100 := by
  apply List.max?_eq_some_iff.2
  refine ⟨List.mem_map.2 ⟨r, hr, share_of_le h hreached⟩, ?_⟩
  intro p hp
  obtain ⟨q, -, rfl⟩ := List.mem_map.1 hp
  exact share_le total q

theorem exact_of_forall (hsame : ∀ r ∈ rs, percent total r = share total r) : Exact total rs := by
  have hknown : (start (some total)).total = some total := total_start_iff.2 ⟨rfl, h⟩
  have hremembers : ∀ earlier, earlier <+: rs →
      ((start (some total)).after earlier).last = (earlier.map (share total)).max? := by
    intro earlier hearlier
    have hmap : earlier.map (percent total) = earlier.map (share total) :=
      List.map_congr_left fun q hq => hsame q (hearlier.subset hq)
    rw [last_eq_max? hknown rfl, hmap]
  refine ⟨?_, hremembers, ?_⟩
  · rintro earlier r later rfl
    have hr : percent total r = share total r := hsame r (by simp)
    have hearlier : ∀ q ∈ earlier, percent total q = share total q := fun q hq =>
      hsame q (List.mem_append_left _ hq)
    have habove : earlier.all (percent total · < percent total r) =
        earlier.all (share total · < share total r) := by
      rw [hr, Bool.eq_iff_iff, List.all_eq_true, List.all_eq_true]
      exact forall₂_congr fun q hq => by rw [hearlier q hq]
    rw [advance_fst hknown rfl, habove, hr]
  · rintro earlier hearlier ⟨r, hr, hreached⟩
    rw [hremembers earlier hearlier]
    exact max?_share h hr hreached

/-- The tracker would have to remember the share of a count that does not fit, but that share is
above every percentage. -/
theorem Exact.fits (hexact : Exact total rs) {r : UInt64} (hr : r ∈ rs) : Fits total r := by
  by_contra hfits
  have hlast := hexact.remembers rs List.prefix_rfl
  rw [last_eq_max? (total_start_iff.2 ⟨rfl, h⟩) rfl] at hlast
  cases hmax : (rs.map (share total)).max? with
  | none =>
    rw [List.map_eq_nil_iff.1 (List.max?_eq_none_iff.1 hmax)] at hr
    cases hr
  | some m =>
    obtain ⟨q, -, hq⟩ := List.mem_map.1 (List.max?_mem (hlast.trans hmax))
    have hle : share total r ≤ m :=
      (List.max?_eq_some_iff.1 hmax).2 _ (List.mem_map_of_mem hr)
    have hlt := percent_lt_share h hfits q
    omega

end

/-- **A tracker is exact for just the sequences in which every count fits**, whatever the order of
the counts. -/
theorem exact_iff_fits {total : UInt64} (h : total ≠ 0) (rs : List UInt64) :
    Exact total rs ↔ ∀ r ∈ rs, Fits total r := by
  constructor
  · intro hexact r hr
    exact hexact.fits h hr
  · intro hfits
    exact exact_of_forall h fun r hr => percent_eq_share (hfits r hr)

/-- A small total with counts beyond it, and a total of which half fits and the whole does not. -/
theorem exact_iff_fits_half :
    let half : UInt64 := 0x0222222222222222
    let counts : List UInt64 := [2, 0, 1, 0xFFFFFFFFFFFFFFFF, 3]
    (3 : UInt64) ≠ 0 ∧ Exact 3 counts ∧ (start (some 3)).reports counts = [66, 100] ∧
      2 * half ≠ 0 ∧ Exact (2 * half) [half, 0] ∧
      (start (some (2 * half))).reports [half, 0] = [50] ∧
      ¬ Exact (2 * half) [half, 2 * half] := by
  intro half counts
  have hthree : (3 : UInt64) ≠ 0 := by decide
  have hlarge : 2 * half ≠ 0 := by decide
  have hsmall : ∀ r ∈ counts, Fits 3 r := fun r _ => .inl (by decide)
  have hfits : ∀ r ∈ [half, 0], Fits (2 * half) r :=
    List.forall_mem_cons.2 ⟨.inr (by decide), List.forall_mem_singleton.2 (.inr (by decide))⟩
  have hover : ¬ Fits (2 * half) (2 * half) := by decide
  exact ⟨hthree, (exact_iff_fits hthree counts).2 hsmall, by decide, hlarge,
    (exact_iff_fits hlarge [half, 0]).2 hfits, by decide,
    fun hexact => hover ((exact_iff_fits hlarge _).1 hexact _ (by simp))⟩

/-- Not every sequence of counts is tracked exactly: all of the greatest total is one percent of
it. -/
theorem not_exact_for_largest :
    ¬ ∀ (total : UInt64) (rs : List UInt64), total ≠ 0 → Exact total rs := by
  intro h
  let total : UInt64 := 0xFFFFFFFFFFFFFFFF
  have hreached := (h total [total] (by decide)).completes [total] List.prefix_rfl
    ⟨total, List.mem_singleton_self total, by decide⟩
  have hlast : ((start (some total)).after [total]).last = some 1 := by decide
  rw [hlast] at hreached
  revert hreached
  decide

end ExtensionCatalogue.PercentTracker
