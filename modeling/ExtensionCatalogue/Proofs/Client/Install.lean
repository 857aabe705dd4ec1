import ExtensionCatalogue.Proofs.Client.Operation
import ExtensionCatalogue.Proofs.Progress

/-!
# The percentages of an install

An install hands the number of bytes received in all to its tracker after each piece, so its
percentages are those of the tracker for these counts (`reported_eq`). The counts never decrease,
so the latest percentage is the share of what has arrived.
-/

namespace ExtensionCatalogue.Client

open PercentTracker

/-- The numbers of bytes received in all after each piece. -/
def counts (received : Nat) : List (List UInt8) → List UInt64
  | [] => []
  | p :: ps => UInt64.ofNat (received + p.length) :: counts (received + p.length) ps

theorem counts_concat (received : Nat) (ps : List (List UInt8)) (p : List UInt8) :
    counts received (ps ++ [p]) =
      counts received ps ++ [UInt64.ofNat (received + (ps ++ [p]).flatten.length)] := by
  induction ps generalizing received with
  | nil => simp [counts]
  | cons q ps ih => simp [counts, ih, Nat.add_assoc]

theorem counts_append (received : Nat) (ps qs : List (List UInt8)) :
    counts received (ps ++ qs) =
      counts received ps ++ counts (received + ps.flatten.length) qs := by
  induction ps generalizing received with
  | nil => rfl
  | cons p ps ih => simp [counts, ih, Nat.add_assoc]

theorem le_of_mem_counts {received : Nat} {ps : List (List UInt8)} {c : UInt64}
    (h : c ∈ counts received ps) : ∃ k ≤ received + ps.flatten.length, c = UInt64.ofNat k := by
  induction ps generalizing received with
  | nil => cases h
  | cons p ps ih =>
    rw [List.flatten_cons, List.length_append]
    rcases List.mem_cons.1 h with rfl | h
    · exact ⟨received + p.length, by omega, rfl⟩
    · obtain ⟨k, hk, hc⟩ := ih h
      exact ⟨k, by omega, hc⟩

theorem counts_le {received n : Nat} {ps : List (List UInt8)}
    (h : received + ps.flatten.length ≤ n) (hn : n < UInt64.size) :
    ∀ c ∈ counts received ps, c ≤ UInt64.ofNat n := by
  intro c hc
  obtain ⟨k, hk, rfl⟩ := le_of_mem_counts hc
  have hle : k ≤ n := Nat.le_trans hk h
  rw [UInt64.le_iff_toNat_le, UInt64.toNat_ofNat_of_lt' (Nat.lt_of_le_of_lt hle hn),
    UInt64.toNat_ofNat_of_lt' hn]
  exact hle

theorem reports_receiveAll (w : Download) (pieces : List (List UInt8)) :
    (w.receiveAll pieces).1 = w.tracker.reports (counts w.body.length pieces) := by
  induction pieces generalizing w with
  | nil => rfl
  | cons p ps ih =>
    show (w.receive p).1.toList ++ ((w.receive p).2.receiveAll ps).1 = _
    rw [ih, Download.body_receive, List.length_append]
    have hreceive : w.receive p =
        ((w.tracker.advance (UInt64.ofNat (w.body.length + p.length))).1,
          ⟨w.body ++ p, (w.tracker.advance (UInt64.ofNat (w.body.length + p.length))).2⟩) := by
      rw [← List.length_append]
      rfl
    rw [hreceive]
    rfl

/-- The percentages that an install reports for a response. -/
def reported (url id : String) (d : Delivery) : List Nat :=
  (installResult url id (.delivered d)).1

section

variable {url id : String} {d : Delivery}

theorem reported_eq (h : 200 ≤ d.status ∧ d.status < 300) :
    reported url id d = (start d.announced).reports (counts 0 d.pieces) := by
  rw [reported, installResult, success_delivered, if_pos (isSuccess_iff.2 h)]
  exact reports_receiveAll _ _

theorem reported_of_rejected (h : ¬ (200 ≤ d.status ∧ d.status < 300)) :
    reported url id d = [] := by
  rw [reported, installResult, success_delivered, if_neg (mt isSuccess_iff.1 h)]

/-- What is reported is known from the pieces that have arrived. -/
theorem reported_prefix {front back : List (List UInt8)} (h : d.pieces = front ++ back) :
    reported url id { d with pieces := front } <+: reported url id d := by
  by_cases hstatus : 200 ≤ d.status ∧ d.status < 300
  · rw [reported_eq hstatus, reported_eq (d := { d with pieces := front }) hstatus, h,
      counts_append, reports_append]
    exact List.prefix_append _ _
  · refine ⟨reported url id d, ?_⟩
    rw [reported_of_rejected (d := { d with pieces := front }) hstatus, List.nil_append]

theorem reported_of_unknown (h : (start d.announced).total = none) : reported url id d = [] := by
  by_cases hstatus : 200 ≤ d.status ∧ d.status < 300
  · rw [reported_eq hstatus, reports_of_unknown h]
  · exact reported_of_rejected hstatus

theorem reported_cases (url id : String) (d : Delivery) : reported url id d = [] ∨
    ∃ n, (start d.announced).total = some n ∧
      reported url id d = (start d.announced).reports (counts 0 d.pieces) := by
  by_cases hstatus : 200 ≤ d.status ∧ d.status < 300
  · cases htotal : (start d.announced).total with
    | none => exact .inl (reported_of_unknown htotal)
    | some n => exact .inr ⟨n, rfl, reported_eq hstatus⟩
  · exact .inl (reported_of_rejected hstatus)

theorem reported_increasing : (reported url id d).Pairwise (· < ·) := by
  rcases reported_cases url id d with h | ⟨n, htotal, h⟩
  · rw [h]
    exact .nil
  · rw [h]
    exact reports_increasing htotal rfl _

/-- A percentage that is reported is that of some number of bytes that have arrived. -/
theorem exists_of_mem_reported {p : Nat} (h : p ∈ reported url id d) :
    ∃ n, d.announced = some n ∧ ∃ k ≤ d.bytes.length, p = percent n (UInt64.ofNat k) := by
  rcases reported_cases url id d with hnone | ⟨n, htotal, hsome⟩
  · rw [hnone] at h
    cases h
  · rw [hsome] at h
    obtain ⟨r, hr, hp⟩ := exists_of_mem_reports htotal rfl h
    obtain ⟨k, hk, rfl⟩ := le_of_mem_counts hr
    rw [Nat.zero_add] at hk
    exact ⟨n, (total_start_iff.1 htotal).1, k, hk, hp⟩

end

/-- A successful response whose announced length is not zero and has a count as its hundredfold.
HTTP lets no more than the announced length arrive, and all of it if the body is complete. -/
structure Measured (d : Delivery) (n : UInt64) : Prop where
  announced : d.announced = some n
  positive : n ≠ 0
  status : 200 ≤ d.status ∧ d.status < 300
  small : n.toNat ≤ largestCount / 100
  within : d.bytes.length ≤ n.toNat
  whole : d.interrupted = none → d.bytes.length = n.toNat

/-- What an install reports for a response. -/
structure ReportsProgress (url id : String) (d : Delivery) : Prop where
  silent : d.announced = none ∨ d.announced = some 0 ∨ ¬ (200 ≤ d.status ∧ d.status < 300) →
    reported url id d = []
  increasing : (reported url id d).Pairwise (· < ·)
  range : ∀ p ∈ reported url id d, p ≤ 100
  reached : ∀ n, d.announced = some n → 100 ∈ reported url id d → n.toNat ≤ d.bytes.length
  causal : ∀ front back, d.pieces = front ++ back →
    reported url id { d with pieces := front } <+: reported url id d
  shares : ∀ n, Measured d n → ∀ front piece back, d.pieces = front ++ piece :: back →
    let share := 100 * (front ++ [piece]).flatten.length / n.toNat
    let earlier := reported url id { d with pieces := front }
    let now := reported url id { d with pieces := front ++ [piece] }
    (∃ last ∈ earlier.getLast?, share ≤ last) ∧ now = earlier ∨
      (∀ last ∈ earlier.getLast?, last < share) ∧ now = earlier ++ [share]
  complete : ∀ n, Measured d n → d.interrupted = none →
    (reported url id d).getLast? = some 100

namespace Measured

variable {d : Delivery} {n : UInt64} (h : Measured d n)

include h

theorem total : (start d.announced).total = some n :=
  total_start_iff.2 ⟨h.announced, h.positive⟩

theorem percent_eq {k : Nat} (hk : k ≤ n.toNat) :
    percent n (UInt64.ofNat k) = 100 * k / n.toNat := by
  have hcount : (UInt64.ofNat k).toNat = k :=
    UInt64.toNat_ofNat_of_lt' (Nat.lt_of_le_of_lt hk n.toNat_lt)
  rw [PercentTracker.percent_eq h.small (UInt64.le_iff_toNat_le.2 (hcount.symm ▸ hk)), hcount]

theorem length_le {front back : List (List UInt8)} (hd : d.pieces = front ++ back) :
    front.flatten.length ≤ n.toNat := by
  have hwithin := h.within
  rw [Delivery.bytes, hd, List.flatten_append, List.length_append] at hwithin
  omega

end Measured

/-- **An install reports its progress.** -/
theorem reportsProgress (url id : String) (d : Delivery) : ReportsProgress url id d where
  silent h := by
    rcases h with h | h | h
    · exact reported_of_unknown (by rw [h]; rfl)
    · exact reported_of_unknown (by rw [h]; rfl)
    · exact reported_of_rejected h
  increasing := reported_increasing
  range p hp := by
    obtain ⟨n, -, k, -, rfl⟩ := exists_of_mem_reported hp
    exact percent_le n _
  reached n hn hp := by
    obtain ⟨n', hn', k, hk, hpercent⟩ := exists_of_mem_reported hp
    obtain rfl : n = n' := Option.some.inj (hn.symm.trans hn')
    have hcount := UInt64.le_iff_toNat_le.1 (le_of_percent_eq hpercent.symm)
    rw [UInt64.toNat_ofNat'] at hcount
    exact Nat.le_trans hcount (Nat.le_trans (Nat.mod_le _ _) hk)
  causal _ _ h := reported_prefix h
  shares n h front piece back hd := by
    have hk : (front ++ [piece]).flatten.length ≤ n.toNat :=
      h.length_le (by rw [hd, List.append_assoc, List.singleton_append])
    dsimp only
    rw [reported_eq (d := { d with pieces := front }) h.status,
      reported_eq (d := { d with pieces := front ++ [piece] }) h.status, counts_concat,
      Nat.zero_add, ← h.percent_eq hk]
    exact reports_concat_cases h.total rfl _ _
  complete n h hwhole := by
    have hbytes := h.whole hwhole
    rcases List.eq_nil_or_concat' d.pieces with hpieces | ⟨front, piece, hpieces⟩
    · rw [Delivery.bytes, hpieces] at hbytes
      exact absurd (UInt64.toNat_inj.1 hbytes.symm) h.positive
    · have hfront : 0 + front.flatten.length ≤ d.bytes.length := by
        rw [Delivery.bytes, hpieces, List.flatten_append, List.length_append]
        omega
      have hcounts := counts_le hfront (hbytes ▸ n.toNat_lt)
      have hn : 0 < n.toNat := Nat.pos_of_ne_zero fun h0 => h.positive (UInt64.toNat_inj.1 h0)
      rw [reported_eq h.status, hpieces, counts_concat, Nat.zero_add, ← hpieces]
      calc ((start d.announced).reports (counts 0 front ++ [UInt64.ofNat d.bytes.length])).getLast?
          = some (percent n (UInt64.ofNat d.bytes.length)) := getLast?_reports h.total rfl hcounts
        _ = some (100 * n.toNat / n.toNat) := by
          rw [h.percent_eq (Nat.le_of_eq hbytes), hbytes]
        _ = some 100 := by rw [Nat.mul_div_cancel _ hn]

/-- An empty piece is silent, and what is cut short after its first half ends below a hundred. -/
theorem reportsProgress_pieces :
    let d : Delivery := ⟨200, some 8, .utf8, [[91], [], [32, 32, 32], [32, 32, 32, 93]], none⟩
    let cut : Delivery := ⟨200, some 8, .utf8, [[91], [], [32, 32, 32]], some "connection reset"⟩
    Measured d 8 ∧ reported "u" "p" d = [12, 50, 100] ∧
      (reported "u" "p" d).getLast? = some 100 ∧
      reported "u" "p" cut = [12, 50] ∧ 100 ∉ reported "u" "p" cut := by
  intro d cut
  have h : Measured d 8 := ⟨rfl, by decide, by decide, by decide, by decide, by decide⟩
  have hcut : ¬ (8 : UInt64).toNat ≤ cut.bytes.length := by decide
  exact ⟨h, by decide, (reportsProgress "u" "p" d).complete 8 h rfl, by decide,
    mt ((reportsProgress "u" "p" cut).reached 8 rfl) hcut⟩

end ExtensionCatalogue.Client
