import ExtensionCatalogue.Proofs.Sync.SingleFlight

/-!
# The progress of an install

A report names a package and not the call it comes from. Still a listener can tell: from the turn
that makes an install call to the turn that ends it, no other call on the package is underway, so
every report handled in between is one of this call, and so is every progress event. The events
show the reports that are not below the greatest before them, cut at a hundred. The next install of
the package starts again from nothing.
-/

namespace ExtensionCatalogue.Sync

/-! ## Percentages shown -/

/-- The greatest of some percentages, each cut at a hundred, and of `m`. -/
def peak (m : Nat) (ps : List Nat) : Nat := ps.foldl (fun m p => max m (min p 100)) m

/-- Of the percentages reported, those to be shown when `m` is the greatest so far: all that are not
below the greatest before them, cut at a hundred. -/
def advancing (m : Nat) : List Nat → List Nat
  | [] => []
  | p :: ps =>
    let rest := advancing (max m (min p 100)) ps
    if p < m then rest else min p 100 :: rest

theorem advancing_of_lt {m p : Nat} (h : p < m) : advancing m [p] = [] := if_pos h

theorem advancing_of_le {m p : Nat} (h : m ≤ p) : advancing m [p] = [min p 100] :=
  if_neg (by omega)

theorem advancing_append (m : Nat) (ps qs : List Nat) :
    advancing m (ps ++ qs) = advancing m ps ++ advancing (peak m ps) qs := by
  induction ps generalizing m with
  | nil => rfl
  | cons p ps ih =>
    simp only [List.cons_append, advancing, ih]
    split <;> rfl

theorem peak_append (m : Nat) (ps qs : List Nat) : peak m (ps ++ qs) = peak (peak m ps) qs :=
  List.foldl_append

theorem peak_le {m : Nat} (h : m ≤ 100) (ps : List Nat) : peak m ps ≤ 100 := by
  induction ps generalizing m with
  | nil => exact h
  | cons p ps ih =>
    have hmax : max m (min p 100) ≤ 100 := by omega
    exact ih hmax

theorem le_hundred {m q : Nat} {ps : List Nat} (h : q ∈ advancing m ps) : q ≤ 100 := by
  induction ps generalizing m with
  | nil => cases h
  | cons p ps ih =>
    unfold advancing at h
    split at h
    · exact ih h
    · rcases List.mem_cons.1 h with rfl | h
      · omega
      · exact ih h

theorem le_of_mem_advancing {m q : Nat} {ps : List Nat} (hm : m ≤ 100) (h : q ∈ advancing m ps) :
    m ≤ q := by
  induction ps generalizing m with
  | nil => cases h
  | cons p ps ih =>
    have hrest : q ∈ advancing (max m (min p 100)) ps → m ≤ q := fun h => by
      have := ih (by omega) h
      omega
    unfold advancing at h
    split at h
    · exact hrest h
    · rcases List.mem_cons.1 h with rfl | h
      · omega
      · exact hrest h

/-- What is shown never goes back. -/
theorem pairwise_advancing {m : Nat} (hm : m ≤ 100) (ps : List Nat) :
    (advancing m ps).Pairwise (· ≤ ·) := by
  induction ps generalizing m with
  | nil => exact List.Pairwise.nil
  | cons p ps ih =>
    have hrest := ih (m := max m (min p 100)) (by omega)
    unfold advancing
    split
    · exact hrest
    · refine List.pairwise_cons.2 ⟨fun q hq => ?_, hrest⟩
      have := le_of_mem_advancing (by omega) hq
      omega

/-! ## Reports and events -/

/-- The percentage of an event, if it is progress of the package. -/
def Event.progress? (id : String) : Event → Option Nat
  | .progress i percent => if i = id then some percent else none
  | _ => none

/-- The percentage reported, if the turn handles a report on the package. -/
def Turn.report? (id : String) (t : Turn) : Option Nat :=
  match t.input with
  | some (.completion (.progress i percent)) => if i = id then some percent else none
  | _ => none

/-- The percentages reported on a package in some turns. -/
def reports (id : String) (ts : List Turn) : List Nat := ts.filterMap (·.report? id)

theorem reports_of_progress (id : String) (percent : Nat) (es : List Effect) :
    reports id [⟨some (.completion (.progress id percent)), es⟩] = [percent] := by
  simp [reports, Turn.report?]

theorem reports_of_other {id other : String} (h : other ≠ id) (percent : Nat) (es : List Effect) :
    reports id [⟨some (.completion (.progress other percent)), es⟩] = [] := by
  simp [reports, Turn.report?, h]

/-- The progress of a package shown in some turns. -/
def shown (id : String) (ts : List Turn) : List Nat :=
  ts.flatMap fun t => (events t.effects).filterMap (·.progress? id)

theorem reports_append (id : String) (ts us : List Turn) :
    reports id (ts ++ us) = reports id ts ++ reports id us :=
  List.filterMap_append

theorem shown_append (id : String) (ts us : List Turn) :
    shown id (ts ++ us) = shown id ts ++ shown id us :=
  List.flatMap_append

theorem shown_singleton (id : String) (t : Turn) :
    shown id [t] = (events t.effects).filterMap (·.progress? id) := by
  simp [shown]

theorem mem_progress_iff {id : String} {percent : Nat} {es : List Event} :
    percent ∈ es.filterMap (·.progress? id) ↔ .progress id percent ∈ es := by
  rw [List.mem_filterMap]
  constructor
  · rintro ⟨e, he, hp⟩
    cases e with
    | progress i q =>
      obtain ⟨rfl, rfl⟩ : i = id ∧ q = percent := by simpa [Event.progress?] using hp
      exact he
    | _ => cases hp
  · exact fun he => ⟨_, he, by simp [Event.progress?]⟩

/-- The line that tells of the result of an operation. -/
def resultLine (operation : Operation) (name : String) : Except Failure Unit → Status
  | .ok () => .done operation name
  | .error failure => .failed operation name failure

/-- The call was made in a turn, and no turn since then has ended an operation on its package or
made another call on it. -/
def Lasting (record : List Turn) (operation : Operation) (p : Package) : Prop :=
  ∃ later start past, record = later ++ start :: past ∧
    calls start.effects = [.operation operation p] ∧
    ∀ t ∈ later, t.ended p.id = [] ∧ flights p.id (calls t.effects) = []

/-- What progress tells, at one point of a run. -/
structure World.Streams (debounce : Nat) (w : World) : Prop where
  /-- Since an install call was made and until it ends, no other call on the package is made, and
  the progress shown of it is made of the reports on it that are not below the greatest before them,
  cut at a hundred. -/
  stream : ∀ rest ts start past p, w.record = rest ++ (ts ++ start :: past) →
    .operation .install p ∈ calls start.effects → (∀ t ∈ ts, t.ended p.id = []) →
    (∀ t ∈ ts, flights p.id (calls t.effects) = []) ∧
      shown p.id ts.reverse = advancing 0 (reports p.id ts.reverse) ∧
      (shown p.id ts.reverse).Pairwise (· ≤ ·) ∧ ∀ percent ∈ shown p.id ts.reverse, percent ≤ 100
  /-- A report comes only from the install call on its package that lasts. -/
  sender : ∀ rest t past id percent, w.record = rest ++ t :: past → t.report? id = some percent →
    ∃ p, p.id = id ∧ Lasting past .install p
  /-- Progress is shown only while an install call on the package lasts. -/
  within : ∀ rest t past id percent, w.record = rest ++ t :: past →
    .progress id percent ∈ events t.effects → ∃ p, p.id = id ∧ Lasting past .install p
  /-- Even if a report came from nowhere, it would not be shown unless an install were underway. -/
  stray : ∀ id percent, events (w.state.step debounce (.completion (.progress id percent))).2 ≠ [] →
    ∃ p, p.id = id ∧ .operation .install p ∈ w.underway
  /-- The turn that makes a call tells of it by one line. -/
  opening : ∀ t ∈ w.record, ∀ o p, .operation o p ∈ calls t.effects →
    events t.effects = [.status (.started o p.name)]
  /-- The turn that ends an operation shows no progress and tells of the result in the end. -/
  closing : ∀ t ∈ w.record, ∀ o id name result,
    t.input = some (.completion (.operation o id name result)) →
    (∀ i percent, .progress i percent ∉ events t.effects) ∧
      (events t.effects).getLast? = some (.status (resultLine o name result))

namespace State

variable {debounce : Nat} {s t : State} {i : Input} {es : List Effect} {id : String}

/-- A result is told of without progress, and by one line in the end. -/
theorem Rule.result {operation : Operation} {other name : String} {result : Except Failure Unit}
    (h : s.Rule debounce (.completion (.operation operation other name result)) t es)
    (id : String) :
    (events es).filterMap (·.progress? id) = [] ∧
      (events es).getLast? = some (.status (resultLine operation name result)) := by
  cases h with
  | done operation other name =>
    rw [events_append, events_warning]
    cases hs : s.registry.setInstalled? other operation.target with
    | none => simp [change, hs, Event.progress?, resultLine]
    | some r => simp [change, hs, Event.progress?, resultLine]
  | failed operation other name failure => simp [Event.progress?, resultLine]

/-- While an install is underway a turn shows what its report, if it handles one, adds. -/
theorem Rule.advances (h : s.Rule debounce i t es) {m : Nat}
    (hp : s.pending.get? id = some ⟨.install, m⟩) (hm : m ≤ 100)
    (hend : Turn.ended ⟨some i, es⟩ id = []) :
    t.pending.get? id = some ⟨.install, peak m (reports id [⟨some i, es⟩])⟩ ∧
      shown id [⟨some i, es⟩] = advancing m (reports id [⟨some i, es⟩]) := by
  have hquiet : t.pending.get? id = s.pending.get? id → reports id [⟨some i, es⟩] = [] →
      (events es).filterMap (·.progress? id) = [] →
      t.pending.get? id = some ⟨.install, peak m (reports id [⟨some i, es⟩])⟩ ∧
        shown id [⟨some i, es⟩] = advancing m (reports id [⟨some i, es⟩]) := by
    intro hsame hnone hshown
    rw [hnone, hsame, shown_singleton, hshown]
    exact ⟨hp, rfl⟩
  cases h with
  | start operation other now p hs =>
    have hne : id ≠ other := by
      rintro rfl
      rw [hs.1] at hp
      cases hp
    exact hquiet (by simp [hne]) rfl rfl
  | advance other progress percent hrun hle =>
    by_cases he : other = id
    · subst he
      obtain rfl : progress = m := by
        rw [hrun] at hp
        cases hp
        rfl
      have hpeak : peak progress [percent] = min percent 100 := by
        show max progress (min percent 100) = _
        omega
      rw [reports_of_progress, hpeak, advancing_of_le hle]
      exact ⟨by simp, by simp [shown, Event.progress?]⟩
    · exact hquiet (by simp [Ne.symm he]) (reports_of_other he _ _) (by simp [Event.progress?, he])
  | disregard other percent hnot =>
    by_cases he : other = id
    · subst he
      have hlt : percent < m := Nat.lt_of_not_le fun hle => hnot m hle hp
      have hpeak : peak m [percent] = m := by
        show max m (min percent 100) = _
        omega
      rw [reports_of_progress, hpeak, advancing_of_lt hlt]
      exact ⟨hp, rfl⟩
    · exact hquiet rfl (reports_of_other he _ _) rfl
  | done operation other name =>
    have hne : other ≠ id := by simpa [Turn.ended] using hend
    have hr : s.Rule debounce _ _ _ := .done operation other name
    exact hquiet (by simp [succeeded, hne.symm]) rfl (hr.result id).1
  | failed operation other name failure =>
    have hne : other ≠ id := by simpa [Turn.ended] using hend
    have hr : s.Rule debounce _ _ _ := .failed operation other name failure
    exact hquiet (by simp [hne.symm]) rfl (hr.result id).1
  | found keyword packages => exact hquiet rfl rfl (by simp [Event.progress?])
  | _ => exact ⟨hp, rfl⟩

/-- A turn that makes a call on a package makes this call only, tells of it by one line, and has it
pending with no progress. -/
theorem Rule.made (h : s.Rule debounce i t es) (hs : s.registry.Sound) {operation : Operation}
    {p : Package} (hc : .operation operation p ∈ calls es) :
    calls es = [.operation operation p] ∧ events es = [.status (.started operation p.name)] ∧
      t.pending.get? p.id = some ⟨operation, 0⟩ := by
  cases h with
  | start o other now q hq =>
    obtain ⟨rfl, rfl⟩ : operation = o ∧ p = q := by simpa using hc
    have hid : p.id = other := (hs.get?_eq_some_iff.1 hq.2.1).2
    exact ⟨rfl, rfl, by simp [hid]⟩
  | _ => simp at hc

/-- No call is made on a package with an operation pending. -/
theorem Rule.no_flight (h : s.Rule debounce i t es) (hs : s.registry.Sound) {f : InFlight}
    (hp : s.pending.get? id = some f) : flights id (calls es) = [] := by
  cases h with
  | start operation other now p hstart =>
    have hne : p.id ≠ id := by
      rintro rfl
      rw [(hs.get?_eq_some_iff.1 hstart.2.1).2, hstart.1] at hp
      cases hp
    exact flights_operation_of_ne hne operation []
  | found keyword packages => simp
  | done operation other name => simp
  | failed operation other name failure => simp
  | _ => rfl

/-- Progress is shown only of a package with an install pending. -/
theorem Rule.installing (h : s.Rule debounce i t es) {percent : Nat}
    (he : .progress id percent ∈ events es) :
    ∃ progress, s.pending.get? id = some ⟨.install, progress⟩ := by
  cases h with
  | advance other progress percent hrun hle =>
    obtain ⟨rfl, -⟩ : id = other ∧ _ := by simpa using he
    exact ⟨progress, hrun⟩
  | done operation other name =>
    have hr : s.Rule debounce _ _ _ := .done operation other name
    rw [← mem_progress_iff, (hr.result id).1] at he
    cases he
  | _ => simp at he

theorem Rule.installing_of_report {percent : Nat}
    (h : s.Rule debounce (.completion (.progress id percent)) t es) (he : events es ≠ []) :
    ∃ progress, s.pending.get? id = some ⟨.install, progress⟩ := by
  cases h with
  | advance id progress percent hrun hle => exact ⟨progress, hrun⟩
  | disregard id percent hnot => exact absurd rfl he

end State

/-! ## Runs -/

namespace World

variable {debounce : Nat} {w : World} {m : Move} {s : State} {es : List Effect}

theorem left_subset (w : World) (m : Move) : w.left m ⊆ w.underway := by
  cases m with
  | answer a => exact List.erase_subset
  | _ => exact List.Subset.refl _

/-- If the operations underway have lasted so far, those underway after a turn have, too. -/
theorem Coherent.lasting_turned (hw : w.Coherent) (hm : w.Possible m)
    (hr : w.state.Rule debounce m.input s es)
    (h : ∀ o p, .operation o p ∈ w.underway → Lasting w.record o p) :
    ∀ o p, .operation o p ∈ (w.turned m s es).underway →
      Lasting (w.turned m s es).record o p := by
  intro o p hc
  rcases List.mem_append.1 hc with hleft | hnew
  · obtain ⟨later, start, past, hrec, hstart, hlater⟩ := h o p (w.left_subset m hleft)
    have hflight : o ∈ flights p.id (w.left m) := List.mem_filterMap.2 ⟨_, hleft, if_pos rfl⟩
    have hpos := List.length_pos_of_mem hflight
    -- one operation at most is underway, so the turn neither ends nor makes one
    have hbefore := congrArg List.length (hw.flights_left hm es p.id)
    have hafter := congrArg List.length (hw.single_turned hm hr p.id)
    have hle := w.state.length_running_le p.id
    have hle' := s.length_running_le p.id
    rw [hw.single, List.length_append] at hbefore
    rw [flights_append, List.length_append] at hafter
    have hend : Turn.ended ⟨some m.input, es⟩ p.id = [] := List.length_eq_zero_iff.1 (by omega)
    have hmade : flights p.id (calls es) = [] := List.length_eq_zero_iff.1 (by omega)
    refine ⟨⟨some m.input, es⟩ :: later, start, past, by rw [World.turned, hrec]; rfl, hstart, ?_⟩
    exact List.forall_mem_cons.2 ⟨⟨hend, hmade⟩, hlater⟩
  · obtain ⟨hcalls, -⟩ := hr.made hw.sound hnew
    exact ⟨[], _, w.record, rfl, hcalls, fun t ht => by cases ht⟩

theorem lasting_after (debounce : Nat) (load : Bool) (ms : List Move) (o : Operation)
    (p : Package) (h : .operation o p ∈ (after debounce load ms).underway) :
    Lasting (after debounce load ms).record o p := by
  refine coherent_keeps
    (P := fun w => ∀ o p, .operation o p ∈ w.underway → Lasting w.record o p)
    (fun load o p hc => ?_) (fun _ _ _ _ hw h hm hr => hw.lasting_turned hm hr h) load ms o p h
  cases load <;> simp [start, State.fire] at hc

/-- A pending operation is underway. -/
theorem Coherent.underway_of_pending (hw : w.Coherent) {id : String} {o : Operation} {n : Nat}
    (h : w.state.pending.get? id = some ⟨o, n⟩) : ∃ p, p.id = id ∧ .operation o p ∈ w.underway := by
  have hmem : o ∈ flights id w.underway := by
    rw [hw.single, State.running, h]
    exact List.mem_singleton_self _
  obtain ⟨c, hc, hon⟩ := List.mem_filterMap.1 hmem
  cases c with
  | search g keyword => cases hon
  | operation o' p =>
    obtain ⟨hid, rfl⟩ : p.id = id ∧ o' = o := by simpa [Call.operationOn?] using hon
    exact ⟨p, hid, hc⟩

/-- A report that is handled comes from an install call underway. -/
theorem underway_of_report (hm : w.Possible m) {id : String} {percent : Nat}
    (h : Turn.report? id ⟨some m.input, es⟩ = some percent) :
    ∃ p, p.id = id ∧ .operation .install p ∈ w.underway := by
  cases m with
  | report p q =>
    obtain ⟨hid, -⟩ : p.id = id ∧ q = percent := by simpa [Turn.report?, Move.input] using h
    exact ⟨p, hid, hm⟩
  | answer a => cases a <;> cases h
  | _ => cases h

/-- Since an install call was made and until it ends, it is pending with the greatest percentage
reported, and what has been shown is what the reports say. -/
def Advanced (w : World) : Prop :=
  ∀ ts start past p, w.record = ts ++ start :: past →
    .operation .install p ∈ calls start.effects → (∀ t ∈ ts, t.ended p.id = []) →
    w.state.pending.get? p.id = some ⟨.install, peak 0 (reports p.id ts.reverse)⟩ ∧
      (∀ t ∈ ts, flights p.id (calls t.effects) = []) ∧
      shown p.id ts.reverse = advancing 0 (reports p.id ts.reverse)

theorem Advanced.turned (h : w.Advanced) (hw : w.Coherent)
    (hr : w.state.Rule debounce m.input s es) : (w.turned m s es).Advanced := by
  intro ts start past p hrec hmade hend
  rcases List.cons_eq_append_iff.1 hrec with ⟨rfl, hhead⟩ | ⟨ts, rfl, hpast⟩
  · obtain ⟨rfl, -⟩ := List.cons.inj hhead
    obtain ⟨-, -, hp⟩ := hr.made hw.sound hmade
    exact ⟨hp, List.forall_mem_nil _, rfl⟩
  · obtain ⟨hnow, hbefore⟩ := List.forall_mem_cons.1 hend
    obtain ⟨hp, hflights, hshown⟩ := h ts start past p hpast hmade hbefore
    obtain ⟨hp', hshown'⟩ := hr.advances hp (peak_le (Nat.zero_le _) _) hnow
    rw [List.reverse_cons, reports_append, shown_append, peak_append, advancing_append, hshown,
      hshown']
    exact ⟨hp', List.forall_mem_cons.2 ⟨hr.no_flight hw.sound hp, hflights⟩, rfl⟩

/-- The first turn makes no call on a package and shows no progress. -/
theorem first_turn {load : Bool} {t : Turn} (h : t ∈ (start load).record) :
    t.input = none ∧ (∀ o p, .operation o p ∉ calls t.effects) ∧
      ∀ id percent, .progress id percent ∉ events t.effects := by
  cases load with
  | true =>
    obtain rfl := List.mem_singleton.1 h
    exact ⟨rfl, by simp, by simp⟩
  | false =>
    obtain rfl := List.mem_singleton.1 h
    exact ⟨rfl, by simp, by simp⟩

theorem advanced_after (debounce : Nat) (load : Bool) (ms : List Move) :
    (after debounce load ms).Advanced := by
  refine coherent_keeps (fun load ts first past p hrec hmade _ => ?_)
    (fun _ _ _ _ hw h _ hr => h.turned hw hr) load ms
  have hmem : first ∈ (start load).record := by simp [hrec]
  exact absurd hmade ((first_turn hmem).2.1 _ p)

/-- **The progress of an install.** Since an install call was made and until it ends, the progress
shown of the package is made of the reports handled since, all from this call: of those that are not
below the greatest before them, cut at a hundred. It comes after the line that tells of the call and
before the line that tells of its result, and no other progress of the package is shown. -/
theorem streams_after (debounce : Nat) (load : Bool) (ms : List Move) :
    (after debounce load ms).Streams debounce where
  stream rest ts first past p hrec hmade hend := by
    obtain ⟨ns, hns⟩ := run_of_suffix hrec (List.append_ne_nil_of_right_ne_nil ts (by simp))
    obtain ⟨-, hflights, hshown⟩ :=
      advanced_after debounce load ns ts first past p hns hmade hend
    rw [hshown]
    exact ⟨hflights, rfl, pairwise_advancing (Nat.zero_le _) _, fun percent h => le_hundred h⟩
  sender rest t past id percent hrec hreport := by
    rcases start_or_move_of_turn hrec with hfirst | ⟨ks, m, s, es, hks, hm, -, rfl⟩
    · have hmem : t ∈ (start load).record := by simp [hfirst]
      simp [Turn.report?, (first_turn hmem).1] at hreport
    · obtain ⟨p, hid, hc⟩ := underway_of_report hm hreport
      exact ⟨p, hid, hks ▸ lasting_after debounce load ks .install p hc⟩
  within rest t past id percent hrec hshown := by
    rcases start_or_move_of_turn hrec with hfirst | ⟨ks, m, s, es, hks, -, hr, rfl⟩
    · have hmem : t ∈ (start load).record := by simp [hfirst]
      exact absurd hshown ((first_turn hmem).2.2 id percent)
    · obtain ⟨progress, hp⟩ := hr.installing hshown
      obtain ⟨p, hid, hc⟩ := (coherent_after debounce load ks).underway_of_pending hp
      exact ⟨p, hid, hks ▸ lasting_after debounce load ks .install p hc⟩
  stray id percent h := by
    obtain ⟨progress, hp⟩ := (State.rule_step debounce _ _).installing_of_report h
    exact (coherent_after debounce load ms).underway_of_pending hp
  opening := by
    refine forall_turn (fun load t ht o p hc => absurd hc ((first_turn ht).2.1 o p))
      (fun w m s es hw hr o p hc => ?_) load ms
    exact (hr.made hw.sound hc).2.1
  closing := by
    refine forall_turn (fun load t ht o id name result hi => ?_)
      (fun w m s es hw hr o id name result hi => ?_) load ms
    · rw [(first_turn ht).1] at hi
      cases hi
    · rw [Option.some.inj hi] at hr
      refine ⟨fun i percent he => ?_, (hr.result id).2⟩
      rw [← mem_progress_iff, (hr.result i).1] at he
      cases he

end World

end ExtensionCatalogue.Sync
