import ExtensionCatalogue.Proofs.Sync.Answers

/-!
# The order of answers does not matter

Answers to calls that are underway together may be handled in any order: the registry, the
operations pending, the generation and the wait come out the same, and whatever happens next is
answered by the same calls and events.

Two runs may differ in the outcomes they remember. `World.Alike` asks for the same outcomes only
while the latest search is underway, since nothing else reads them. Every move keeps two worlds
alike, and two answers handled in either order lead to worlds that are alike.
-/

namespace ExtensionCatalogue.Sync

/-! ## Worlds that are alike -/

namespace World

/-- The worlds are the same but for the outcomes remembered and the record. -/
structure Agree (w v : World) : Prop where
  registry : w.state.registry = v.state.registry
  pending : w.state.pending = v.state.pending
  generation : w.state.generation = v.state.generation
  waiting : w.state.waiting = v.state.waiting
  underway : w.underway = v.underway

/-- The worlds agree, also in what is remembered for the latest search while it is underway. -/
structure Alike (w v : World) : Prop extends Agree w v where
  recent : w.state.generation ∈ generations w.underway →
    ∀ id, w.state.recent? id = v.state.recent? id

variable {debounce : Nat} {w v u : World} {m : Move}

theorem Alike.refl (w : World) : w.Alike w := ⟨⟨rfl, rfl, rfl, rfl, rfl⟩, fun _ _ => rfl⟩

theorem Alike.trans (h : w.Alike v) (k : v.Alike u) : w.Alike u where
  registry := h.registry.trans k.registry
  pending := h.pending.trans k.pending
  generation := h.generation.trans k.generation
  waiting := h.waiting.trans k.waiting
  underway := h.underway.trans k.underway
  recent hg id := by
    have hg' : v.state.generation ∈ generations v.underway := by
      rwa [← h.generation, ← h.underway]
    exact (h.recent hg id).trans (k.recent hg' id)

theorem Agree.bare (h : w.Agree v) : w.state.bare = v.state.bare :=
  State.bare_eq_iff.2 ⟨h.registry, h.pending, h.generation, h.waiting⟩

theorem possible_congr (h : w.underway = v.underway) (m : Move) :
    w.Possible m ↔ v.Possible m := by
  cases m <;> simp only [Possible, h]

theorem left_congr (h : w.underway = v.underway) (m : Move) : w.left m = v.left m := by
  cases m <;> simp only [left, h]

theorem Coherent.move (h : w.Coherent) (debounce : Nat) (m : Move) :
    (w.move debounce m).Coherent :=
  move_keeps h fun _ _ => h.turned

/-- What is remembered for the latest search after a turn is the same in both worlds, if that
search is still underway. -/
theorem Alike.recent_turned {s t : State} {es fs : List Effect} (h : w.Alike v) (hw : w.Coherent)
    (hv : v.Coherent) (hm : w.Possible m) (hs : w.state.Rule debounce m.input s es)
    (ht : v.state.Rule debounce m.input t fs) (hst : s.generation = t.generation)
    (hg : s.generation ∈ generations (w.turned m s es).underway) (id : String) :
    s.recent? id = t.recent? id := by
  have hgen := h.generation
  rcases hw.latest_underway hm hs hg with ⟨hnew, hconf, -⟩ | ⟨hold, -, hunder, hi⟩
  · have hconf' : t.confirmed = v.state.confirmed := by
      rcases ht.fires with ⟨-, hsame⟩ | ⟨-, -, hconf'⟩
      · omega
      · exact hconf'
    rw [hw.dated.recent?_eq_none hconf (by omega), hv.dated.recent?_eq_none hconf' (by omega)]
  · have hi' : ∀ keyword result,
        m.input ≠ .completion (.search v.state.generation keyword result) := hgen ▸ hi
    rw [hs.recent? hold hi, ht.recent? (by omega) hi', h.recent hunder]

/-- A move keeps worlds alike, and adds the same turn to their records. -/
theorem Alike.move (h : w.Alike v) (hw : w.Coherent) (hv : v.Coherent) (debounce : Nat)
    (m : Move) : (w.move debounce m).Alike (v.move debounce m) ∧
      ∃ news, (w.move debounce m).record = news ++ w.record ∧
        (v.move debounce m).record = news ++ v.record := by
  by_cases hm : w.Possible m
  · have hm' : v.Possible m := (possible_congr h.underway m).1 hm
    have hs := State.rule_step debounce w.state m.input
    have ht := State.rule_step debounce v.state m.input
    have hrecent : ∀ keyword result,
        m.input = .completion (.search w.state.generation keyword result) →
          ∀ id, w.state.recent? id = v.state.recent? id :=
      fun keyword result e => h.recent (hw.answered hm e).1
    obtain ⟨hbare, heffects⟩ := State.step_like debounce h.bare hrecent
    obtain ⟨hreg, hp, hg, hwait⟩ := State.bare_eq_iff.1 hbare.symm
    rw [move_of_possible hm, move_of_possible hm', heffects]
    rw [heffects] at ht
    refine ⟨⟨⟨hreg, hp, hg, hwait, ?_⟩, fun hgen => ?_⟩, [⟨some m.input, _⟩], rfl, rfl⟩
    · exact congrArg (· ++ _) (left_congr h.underway m)
    · exact h.recent_turned hw hv hm hs ht hg hgen
  · have hm' : ¬ v.Possible m := fun hv => hm ((possible_congr h.underway m).2 hv)
    rw [move_of_not_possible hm, move_of_not_possible hm']
    exact ⟨h, [], rfl, rfl⟩

theorem Coherent.play (h : w.Coherent) (debounce : Nat) (ms : List Move) :
    (w.play debounce ms).Coherent :=
  play_keeps (fun _ _ _ _ h hm hr => h.turned hm hr) h ms

/-- Worlds that are alike stay alike and record the same, whatever happens. -/
theorem Alike.play (h : w.Alike v) (hw : w.Coherent) (hv : v.Coherent) (debounce : Nat)
    (ms : List Move) : (w.play debounce ms).Alike (v.play debounce ms) ∧
      ∃ news, (w.play debounce ms).record = news ++ w.record ∧
        (v.play debounce ms).record = news ++ v.record := by
  induction ms generalizing w v with
  | nil => exact ⟨h, [], rfl, rfl⟩
  | cons m ms ih =>
    obtain ⟨hmove, news, hwnews, hvnews⟩ := h.move hw hv debounce m
    obtain ⟨hplay, more, hwmore, hvmore⟩ := ih hmove (hw.move debounce m) (hv.move debounce m)
    refine ⟨hplay, more ++ news, ?_, ?_⟩
    · rw [List.append_assoc, ← hwnews]
      exact hwmore
    · rw [List.append_assoc, ← hvnews]
      exact hvmore

/-! ## Answers in any order -/

/-- Answers to different calls that are underway. -/
structure Answerable (w : World) (as : List Answer) : Prop where
  distinct : (as.map (·.call)).Nodup
  underway : ∀ a ∈ as, a.call ∈ w.underway

variable {a b : Answer} {as bs : List Answer}

theorem Answerable.perm (h : w.Answerable as) (hp : as.Perm bs) : w.Answerable bs where
  distinct := (hp.map _).nodup_iff.1 h.distinct
  underway a ha := h.underway a (hp.mem_iff.2 ha)

theorem Answerable.ne (h : w.Answerable (a :: as)) (hb : b ∈ as) : b.call ≠ a.call := fun e =>
  (List.nodup_cons.1 h.distinct).1 (List.mem_map.2 ⟨b, hb, e⟩)

/-- Different calls underway are for different packages or of different generations. -/
theorem Coherent.apart (h : w.Coherent) (ha : a.call ∈ w.underway) (hb : b.call ∈ w.underway)
    (hne : a.call ≠ b.call) : a.Apart b := by
  have hleft : b.call ∈ w.underway.erase a.call := (List.mem_erase_of_ne hne.symm).2 hb
  cases a with
  | search g keyword result =>
    cases b with
    | operation o p result' => trivial
    | search g' keyword' result' =>
      rintro rfl
      exact not_mem_generations_erase h.nodup rfl ha (List.mem_filterMap.2 ⟨_, hleft, rfl⟩)
  | operation o p result =>
    cases b with
    | search g keyword result' => trivial
    | operation o' q result' =>
      intro hid
      have hon : Call.operationOn? q.id (.operation o p) = some o := if_pos hid
      have hnone := (flights_erase hon ha (h.single q.id)).2
      have hmem : o' ∈ flights q.id (w.underway.erase (.operation o p)) :=
        List.mem_filterMap.2 ⟨_, hleft, if_pos rfl⟩
      rw [hnone] at hmem
      cases hmem

theorem move_answer (ha : a.call ∈ w.underway) (debounce : Nat) :
    ∃ es, w.state.Rule debounce a.input (w.move debounce (.answer a)).state es ∧
      (w.move debounce (.answer a)).underway = w.underway.erase a.call := by
  have hm : w.Possible (.answer a) := ha
  have hr : w.state.Rule debounce a.input _ _ := State.rule_step debounce w.state a.input
  rw [move_of_possible hm]
  refine ⟨_, hr, ?_⟩
  show w.underway.erase a.call ++ calls (w.state.step debounce a.input).2 = _
  rw [hr.answer.2.2.2, List.append_nil]

theorem Answerable.tail (h : w.Answerable (a :: as)) (debounce : Nat) :
    (w.move debounce (.answer a)).Answerable as where
  distinct := (List.nodup_cons.1 h.distinct).2
  underway b hb := by
    obtain ⟨-, -, hunder⟩ := move_answer (h.underway a List.mem_cons_self) debounce
    rw [hunder, List.mem_erase_of_ne (h.ne hb)]
    exact h.underway b (List.mem_cons_of_mem a hb)

/-- A search that is underway after an answer has not been answered by it. -/
theorem Coherent.not_answered (h : w.Coherent) (ha : a.call ∈ w.underway) {g : Nat}
    (hg : g ∈ generations (w.underway.erase a.call)) (keyword : String)
    (result : Except Failure (List Package)) :
    a.input ≠ .completion (.search g keyword result) := fun e =>
  have hm : w.Possible (.answer a) := ha
  (h.answered hm e).2 hg

/-- Two answers to different calls lead to worlds that are alike in both orders. -/
theorem Coherent.alike_swap (h : w.Coherent) (debounce : Nat) (ha : a.call ∈ w.underway)
    (hb : b.call ∈ w.underway) (hne : a.call ≠ b.call) :
    ((w.move debounce (.answer a)).move debounce (.answer b)).Alike
      ((w.move debounce (.answer b)).move debounce (.answer a)) := by
  obtain ⟨esa, ra, ua⟩ := move_answer ha debounce
  obtain ⟨esb, rb, ub⟩ := move_answer hb debounce
  have hb' : b.call ∈ (w.move debounce (.answer a)).underway := by
    rw [ua]
    exact (List.mem_erase_of_ne hne.symm).2 hb
  have ha' : a.call ∈ (w.move debounce (.answer b)).underway := by
    rw [ub]
    exact (List.mem_erase_of_ne hne).2 ha
  obtain ⟨esab, rab, uab⟩ := move_answer hb' debounce
  obtain ⟨esba, rba, uba⟩ := move_answer ha' debounce
  have hapart := h.apart ha hb hne
  obtain ⟨hreg, hp, hg, hw⟩ := State.bare_eq_iff.1 (State.bare_swap hapart ra rab rb rba h.sound)
  rw [ua] at uab
  rw [ub] at uba
  refine ⟨⟨hreg, hp, hg, hw, by rw [uab, uba, List.erase_comm]⟩, fun hlatest => ?_⟩
  rw [rab.generation_answer, ra.generation_answer, uab] at hlatest
  have hla := h.not_answered ha ((generations_erase b.call _).subset hlatest)
  rw [List.erase_comm] at hlatest
  have hlb := h.not_answered hb ((generations_erase a.call _).subset hlatest)
  exact State.recent?_swap hapart ra rab rb rba hla hlb

/-- **Answers may come in any order.** -/
theorem Coherent.alike_of_perm (h : w.Coherent) (debounce : Nat) (hp : as.Perm bs)
    (ha : w.Answerable as) :
    (w.play debounce (as.map .answer)).Alike (w.play debounce (bs.map .answer)) := by
  induction hp generalizing w with
  | nil => exact Alike.refl w
  | cons a _ ih => exact ih (h.move debounce (.answer a)) (ha.tail debounce)
  | swap a b as =>
    have hswap := h.alike_swap debounce (ha.underway b List.mem_cons_self)
      (ha.underway a (List.mem_cons_of_mem b List.mem_cons_self)) (ha.ne List.mem_cons_self).symm
    exact (hswap.play ((h.move _ _).move _ _) ((h.move _ _).move _ _) debounce _).1
  | trans hab _ ihab ihbc => exact (ihab h ha).trans (ihbc h (ha.perm hab))

/-- **The order of answers does not matter.** After any run, let answers to different calls
underway be handled in two orders, and let the same moves follow: the two worlds agree, and they
have recorded the same calls and events for these moves. -/
theorem answers_in_any_order (debounce : Nat) (load : Bool) (ms : List Move)
    {as bs : List Answer} (hp : as.Perm bs) (ha : (after debounce load ms).Answerable as)
    (ns : List Move) :
    let w := (after debounce load ms).play debounce (as.map .answer)
    let v := (after debounce load ms).play debounce (bs.map .answer)
    (w.play debounce ns).Agree (v.play debounce ns) ∧
      ∃ news, (w.play debounce ns).record = news ++ w.record ∧
        (v.play debounce ns).record = news ++ v.record := by
  intro w v
  have h := coherent_after debounce load ms
  have halike : w.Alike v := h.alike_of_perm debounce hp ha
  obtain ⟨hns, hnews⟩ := halike.play (h.play debounce _) (h.play debounce _) debounce ns
  exact ⟨hns.toAgree, hnews⟩

/-- A package that two searches find. -/
def alpha : Package := { (default : Package) with id := "a", name := "Alpha" }

/-- A run that installs the package and, before the result, searches again. -/
def race : List Move :=
  [.answer (.search 1 "" (.ok [alpha])), .request (.operate .install "a") 0,
    .request (.search "al") 5, .expiry]

/-- What is to come after `race`: the install succeeds, and the search finds the package as it was
before. -/
def raceAnswers : List Answer :=
  [.operation .install alpha (.ok ()), .search 2 "al" (.ok [alpha])]

/-- Both orders leave the package installed, though what is remembered differs. -/
theorem answers_in_any_order_race :
    let w := (after 300 true race).play 300 (raceAnswers.map .answer)
    let v := (after 300 true race).play 300 (raceAnswers.reverse.map .answer)
    (after 300 true race).Answerable raceAnswers ∧ w.Agree v ∧
      w.state.confirmed ≠ v.state.confirmed ∧
      v.state.registry.packages = [{ alpha with installed := true }] := by
  have ha : (after 300 true race).Answerable raceAnswers := ⟨by decide, by decide⟩
  have hp : raceAnswers.Perm raceAnswers.reverse := (List.reverse_perm _).symm
  exact ⟨ha, (answers_in_any_order 300 true race hp ha []).1, by decide, by decide⟩

end World

end ExtensionCatalogue.Sync
