import ExtensionCatalogue.Proofs.Sync.Reconciliation

/-!
# The latest search wins

The searches of a run are numbered from one, and the number of the latest is the number of
searches fired. Only the reply to that search is acted on; a reply to an earlier one changes
nothing, whatever it brings. So once the latest search has been answered with packages, these are
the packages in the registry until another search is fired.
-/

namespace ExtensionCatalogue.Sync

/-- What it means that the latest search wins, at one point of a run. -/
structure World.LatestWins (debounce : Nat) (w : World) : Prop where
  /-- The `n`-th search fired has generation `n`. -/
  numbered : (fired w.record).reverse = List.range' 1 (fired w.record).length
  /-- A reply is acted on if and only if it is to the latest search. -/
  acts : ∀ g keyword result,
    events (w.state.step debounce (.completion (.search g keyword result))).2 ≠ [] ↔
      g = (fired w.record).length
  /-- A reply to any other search changes nothing and tells nothing. -/
  ignores : ∀ g keyword result, g ≠ (fired w.record).length →
    (w.state.step debounce (.completion (.search g keyword result))).1 = w.state ∧
    calls (w.state.step debounce (.completion (.search g keyword result))).2 = [] ∧
    events (w.state.step debounce (.completion (.search g keyword result))).2 = []
  /-- The replies acted on are to later and later searches. -/
  increasing : (heard w.record).Pairwise (· > ·)
  /-- Since the latest search has been answered with packages, their ids are in the registry. -/
  ids : ∀ t ∈ w.record, ∀ packages,
    t.reply? = some ((fired w.record).length, .ok packages) →
      w.state.registry.packages.map (·.id) = (packages.map (·.id)).eraseDups

/-! ## Replies -/

theorem heard_cons (t : Turn) (past : List Turn) :
    heard (t :: past) = (if t.isTold then t.reply?.map (·.1) else none).toList ++ heard past := by
  unfold heard
  cases h : if t.isTold then t.reply?.map (·.1) else none with
  | none => exact List.filterMap_cons_none h
  | some g => exact List.filterMap_cons_some h

theorem reply_of_mem_heard {g : Nat} {record : List Turn} (h : g ∈ heard record) :
    ∃ t ∈ record, ∃ result, t.reply? = some (g, result) := by
  obtain ⟨t, ht, hg⟩ := List.mem_filterMap.1 h
  split at hg
  · obtain ⟨⟨g', result⟩, hr, rfl⟩ := Option.map_eq_some_iff.1 hg
    exact ⟨t, ht, result, hr⟩
  · cases hg

namespace State

variable {debounce : Nat} {s t : State} {i : Input} {es : List Effect}

/-- A reply is told of if it is to the latest search, and else it changes nothing. -/
theorem Rule.reply {g : Nat} {keyword : String} {result : Except Failure (List Package)}
    (h : s.Rule debounce (.completion (.search g keyword result)) t es) :
    (g = s.generation ∧ events es ≠ []) ∨
      (g ≠ s.generation ∧ t = s ∧ calls es = [] ∧ events es = []) := by
  cases h with
  | stale g keyword result hg => exact .inr ⟨hg, rfl, rfl, rfl⟩
  | found keyword packages => exact .inl ⟨rfl, by simp⟩
  | unreadable keyword cause => exact .inl ⟨rfl, by simp⟩
  | searchFailed keyword failure hf => exact .inl ⟨rfl, by simp⟩

theorem input_of_reply {g : Nat} {result : Except Failure (List Package)}
    (h : Turn.reply? ⟨some i, es⟩ = some (g, result)) :
    ∃ keyword, i = .completion (.search g keyword result) := by
  unfold Turn.reply? at h
  split at h
  · rename_i g' keyword result' hi
    cases h
    exact ⟨keyword, Option.some.inj hi⟩
  · cases h

/-- An answer with packages to the latest search puts their ids in the registry. -/
theorem Rule.ids {keyword : String} {packages : List Package}
    (h : s.Rule debounce (.completion (.search s.generation keyword (.ok packages))) t es) :
    t.registry.packages.map (·.id) = (packages.map (·.id)).eraseDups := by
  cases h with
  | stale g keyword result hg => exact absurd rfl hg
  | found keyword packages =>
    rw [packages_replaced, List.map_map, ← ids_firsts]
    rfl

/-- Any other turn leaves the ids in the registry. -/
theorem Rule.ids_eq (h : s.Rule debounce i t es) (hs : s.registry.Sound)
    (hi : ∀ keyword result, i ≠ .completion (.search s.generation keyword result)) :
    t.registry.packages.map (·.id) = s.registry.packages.map (·.id) := by
  cases h with
  | found keyword packages => exact absurd rfl (hi keyword _)
  | unreadable keyword cause => exact absurd rfl (hi keyword _)
  | done operation id name =>
    rw [registry_succeeded hs, Registry.map, List.map_map]
    exact List.map_congr_left fun p _ => p.flagged_id id operation.target
  | _ => rfl

end State

/-! ## The invariant -/

namespace World

/-- The searches fired are numbered up to the latest. Those answered are not underway any more,
and the answers acted on are in order. The registry has the ids of the latest answer. -/
structure Numbered (w : World) : Prop where
  counted : w.Counted
  answered : ∀ t ∈ w.record, ∀ g result, t.reply? = some (g, result) →
    g ≤ w.state.generation ∧ g ∉ generations w.underway
  increasing : (heard w.record).Pairwise (· > ·)
  ids : ∀ t ∈ w.record, ∀ packages, t.reply? = some (w.state.generation, .ok packages) →
    w.state.registry.packages.map (·.id) = (packages.map (·.id)).eraseDups

theorem numbered_start (load : Bool) : (start load).Numbered := by
  have hreply : ∀ t ∈ (start load).record, t.reply? = none := fun t ht => by
    obtain rfl := List.mem_singleton.1 ht
    rfl
  refine ⟨counted_start load, fun t ht g result hr => ?_, ?_, fun t ht packages hr => ?_⟩
  · rw [hreply t ht] at hr
    cases hr
  · cases load <;> exact List.Pairwise.nil
  · rw [hreply t ht] at hr
    cases hr

variable {debounce : Nat} {w : World} {m : Move} {s : State} {es : List Effect}

theorem Numbered.answered_turned (h : w.Numbered) (hw : w.Coherent) (hm : w.Possible m)
    (hr : w.state.Rule debounce m.input s es) {t : Turn} (ht : t ∈ (w.turned m s es).record)
    {g : Nat} {result : Except Failure (List Package)} (ha : t.reply? = some (g, result)) :
    g ≤ s.generation ∧ g ∉ generations (w.turned m s es).underway := by
  have hleft : g ≤ w.state.generation ∧ g ∉ generations (w.left m) := by
    rcases List.mem_cons.1 ht with rfl | ht
    · obtain ⟨keyword, hi⟩ := State.input_of_reply ha
      obtain ⟨hg, hgone⟩ := hw.answered hm hi
      exact ⟨(hw.fired g hg).2, hgone⟩
    · obtain ⟨hle, hgone⟩ := h.answered t ht g result ha
      exact ⟨hle, fun hg => hgone ((generations_left w m).subset hg)⟩
  show g ≤ s.generation ∧ g ∉ generations (w.left m ++ calls es)
  rw [generations_append, List.mem_append]
  rcases hr.fires with ⟨hc, hs⟩ | ⟨hc, hs, -⟩
  · rw [hc, hs]
    exact ⟨hleft.1, by simpa using hleft.2⟩
  · rw [hc, hs, List.mem_singleton]
    refine ⟨by omega, ?_⟩
    rintro (hg | hg)
    · exact hleft.2 hg
    · omega

theorem Numbered.increasing_turned (h : w.Numbered) (hw : w.Coherent) (hm : w.Possible m)
    (hr : w.state.Rule debounce m.input s es) :
    (heard (w.turned m s es).record).Pairwise (· > ·) := by
  show (heard (⟨some m.input, es⟩ :: w.record)).Pairwise (· > ·)
  rw [heard_cons]
  split
  · rename_i htold
    cases ha : Turn.reply? ⟨some m.input, es⟩ with
    | none => exact h.increasing
    | some a =>
      obtain ⟨g, result⟩ := a
      obtain ⟨keyword, hi⟩ := State.input_of_reply ha
      obtain ⟨hg, -⟩ := hw.answered hm hi
      rw [hi] at hr
      have hlatest : g = w.state.generation := by
        rcases hr.reply with ⟨hg, -⟩ | ⟨-, -, -, hno⟩
        · exact hg
        · simp [Turn.isTold, hno] at htold
      refine List.pairwise_cons.2 ⟨fun g' hg' => ?_, h.increasing⟩
      obtain ⟨t, ht, result', hr'⟩ := reply_of_mem_heard hg'
      obtain ⟨hle, hgone⟩ := h.answered t ht g' result' hr'
      have hne : g' ≠ g := fun e => hgone (e ▸ hg)
      show g' < g
      omega
  · exact h.increasing

theorem Numbered.ids_turned (h : w.Numbered) (hw : w.Coherent) (hm : w.Possible m)
    (hr : w.state.Rule debounce m.input s es) {t : Turn} (ht : t ∈ (w.turned m s es).record)
    {packages : List Package} (ha : t.reply? = some (s.generation, .ok packages)) :
    s.registry.packages.map (·.id) = (packages.map (·.id)).eraseDups := by
  -- a turn with an answer fires nothing
  have hsame : s.generation ≤ w.state.generation → s.generation = w.state.generation := fun hle => by
    rcases hr.fires with ⟨-, hs⟩ | ⟨-, hs, -⟩ <;> omega
  rcases List.mem_cons.1 ht with rfl | ht
  · obtain ⟨keyword, hi⟩ := State.input_of_reply ha
    have hs := hsame (hw.fired _ (hw.answered hm hi).1).2
    rw [hi, hs] at hr
    exact hr.ids
  · have hs := hsame (h.answered t ht _ _ ha).1
    rw [hs] at ha
    rw [← h.ids t ht packages ha]
    refine hr.ids_eq hw.sound fun keyword result hi => ?_
    exact (h.answered t ht _ _ ha).2 (hw.answered hm hi).1

theorem numbered_after (debounce : Nat) (load : Bool) (ms : List Move) :
    (after debounce load ms).Numbered :=
  coherent_keeps numbered_start
    (fun _ _ _ _ hw h hm hr =>
      { counted := h.counted.turned hr
        answered := fun _ ht _ _ ha => h.answered_turned hw hm hr ht ha
        increasing := h.increasing_turned hw hm hr
        ids := fun _ ht _ ha => h.ids_turned hw hm hr ht ha })
    load ms

/-- **The latest search wins.** At every point of every run a reply is acted on exactly if its
generation is the number of searches fired, the replies acted on are in order, and the registry
has the ids of the answer to the latest search from when it was handled. -/
theorem latestWins_after (debounce : Nat) (load : Bool) (ms : List Move) :
    (after debounce load ms).LatestWins debounce := by
  have h := numbered_after debounce load ms
  have hlen := h.counted.length_fired
  refine ⟨?_, fun g keyword result => ?_, fun g keyword result hg => ?_, h.increasing, ?_⟩
  · rw [hlen]
    exact h.counted
  · rw [hlen]
    rcases (State.rule_step debounce _ (.completion (.search g keyword result))).reply with
      ⟨hg, hes⟩ | ⟨hg, -, -, hes⟩
    · exact iff_of_true hes hg
    · exact iff_of_false (fun h => h hes) hg
  · rw [hlen] at hg
    rcases (State.rule_step debounce _ (.completion (.search g keyword result))).reply with
      ⟨hlatest, -⟩ | ⟨-, hsame⟩
    · exact absurd hlatest hg
    · exact hsame
  · rw [hlen]
    exact h.ids

end World

end ExtensionCatalogue.Sync
