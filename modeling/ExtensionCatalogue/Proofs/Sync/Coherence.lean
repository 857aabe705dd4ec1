import ExtensionCatalogue.Proofs.Sync.World

/-!
# What every run keeps

Four facts hold after every run: the registry is sound, the operations underway for a package are
the pending one, no two searches underway have the same generation and none is newer than the
latest, and no remembered outcome is newer than the latest search.
-/

namespace ExtensionCatalogue.Sync

/-! ## Calls underway -/

/-- The operation of a call, if it is one on the package. -/
def Call.operationOn? (id : String) : Call → Option Operation
  | .operation o p => if p.id = id then some o else none
  | .search _ _ => none

/-- The generation of a call, if it is a search. -/
def Call.generation? : Call → Option Nat
  | .search generation _ => some generation
  | .operation _ _ => none

/-- The operations on a package among some calls. -/
def flights (id : String) (cs : List Call) : List Operation := cs.filterMap (·.operationOn? id)

/-- The generations of the searches among some calls. -/
def generations (cs : List Call) : List Nat := cs.filterMap Call.generation?

/-- The pending operation on a package, if there is one. -/
def State.running (s : State) (id : String) : List Operation :=
  ((s.pending.get? id).map (·.operation)).toList

theorem State.length_running_le (s : State) (id : String) : (s.running id).length ≤ 1 := by
  unfold State.running
  cases s.pending.get? id <;> simp

@[simp] theorem flights_nil (id : String) : flights id [] = [] := rfl

@[simp] theorem flights_search (id : String) (g : Nat) (keyword : String) (cs : List Call) :
    flights id (.search g keyword :: cs) = flights id cs := rfl

theorem flights_operation {id : String} {p : Package} (h : p.id = id) (o : Operation)
    (cs : List Call) : flights id (.operation o p :: cs) = o :: flights id cs :=
  List.filterMap_cons_some (if_pos h)

theorem flights_operation_of_ne {id : String} {p : Package} (h : p.id ≠ id) (o : Operation)
    (cs : List Call) : flights id (.operation o p :: cs) = flights id cs :=
  List.filterMap_cons_none (if_neg h)

@[simp] theorem flights_append (id : String) (cs ds : List Call) :
    flights id (cs ++ ds) = flights id cs ++ flights id ds :=
  List.filterMap_append

@[simp] theorem generations_nil : generations [] = [] := rfl

@[simp] theorem generations_append (cs ds : List Call) :
    generations (cs ++ ds) = generations cs ++ generations ds :=
  List.filterMap_append

/-- The answer to a call that is none on the package leaves its operations underway. -/
theorem flights_erase_of_none {id : String} {c : Call} (h : c.operationOn? id = none)
    (cs : List Call) : flights id (cs.erase c) = flights id cs := by
  unfold flights
  induction cs with
  | nil => rfl
  | cons b cs ih =>
    rw [List.erase_cons]
    split
    · rename_i hb
      obtain rfl : b = c := by simpa using hb
      rw [List.filterMap_cons_none h]
    · rw [List.filterMap_cons, List.filterMap_cons, ih]

/-- If one operation at most is underway, its answer leaves none. -/
theorem flights_erase {id : String} {o : Operation} {c : Call} {cs : List Call}
    {running? : Option Operation} (h : c.operationOn? id = some o) (hc : c ∈ cs)
    (hcs : flights id cs = running?.toList) : running? = some o ∧ flights id (cs.erase c) = [] := by
  have hp := (List.perm_cons_erase hc).filterMap (·.operationOn? id)
  rw [List.filterMap_cons_some h] at hp
  change (flights id cs).Perm (o :: flights id (cs.erase c)) at hp
  rw [hcs] at hp
  cases running? with
  | none => exact absurd hp.symm.eq_nil (by simp)
  | some r =>
    obtain ⟨rfl, hrest⟩ : o = r ∧ flights id (cs.erase c) = [] := by
      simpa using hp.symm.eq_singleton
    exact ⟨rfl, hrest⟩

theorem generations_erase (c : Call) (cs : List Call) :
    (generations (cs.erase c)).Sublist (generations cs) :=
  List.erase_sublist.filterMap _

/-- Once answered, a search is not underway any more. -/
theorem not_mem_generations_erase {g : Nat} {c : Call} {cs : List Call}
    (hcs : (generations cs).Nodup) (hg : c.generation? = some g) (hc : c ∈ cs) :
    g ∉ generations (cs.erase c) := by
  have hp := (List.perm_cons_erase hc).filterMap Call.generation?
  rw [List.filterMap_cons_some hg] at hp
  exact (List.nodup_cons.1 (hp.nodup_iff.1 hcs)).1

/-- A turn fires at most one search, with the generation after the latest. -/
theorem State.Rule.fires {debounce : Nat} {s t : State} {i : Input} {es : List Effect}
    (h : s.Rule debounce i t es) :
    generations (calls es) = [] ∧ t.generation = s.generation ∨
      generations (calls es) = [s.generation + 1] ∧ t.generation = s.generation + 1 ∧
        t.confirmed = s.confirmed := by
  cases h with
  | fire w hw => exact .inr ⟨rfl, rfl, rfl⟩
  | start operation id now p hp => exact .inl ⟨rfl, rfl⟩
  | found keyword packages => exact .inl ⟨by simp, rfl⟩
  | done operation id name => exact .inl ⟨by simp, rfl⟩
  | failed operation id name failure => exact .inl ⟨by simp, rfl⟩
  | _ => exact .inl ⟨rfl, rfl⟩

/-! ## The invariant -/

namespace World

structure Coherent (w : World) : Prop where
  sound : w.state.registry.Sound
  single : ∀ id, flights id w.underway = w.state.running id
  nodup : (generations w.underway).Nodup
  fired : ∀ g ∈ generations w.underway, 1 ≤ g ∧ g ≤ w.state.generation
  dated : w.state.Dated

theorem coherent_start (load : Bool) : (start load).Coherent where
  sound := by cases load <;> exact Registry.Sound.empty
  single id := by cases load <;> rfl
  nodup := by cases load <;> simp [start, State.fire, generations, Call.generation?]
  fired := by cases load <;> simp [start, State.fire, State.initial, generations, Call.generation?]
  dated := by cases load <;> simp [start, State.fire, State.initial, State.Dated, Table.empty]

variable {debounce : Nat} {w : World} {m : Move} {s : State} {es : List Effect}

theorem generations_left (w : World) (m : Move) :
    (generations (w.left m)).Sublist (generations w.underway) := by
  cases m with
  | answer a => exact generations_erase a.call w.underway
  | _ => exact List.Sublist.refl _

theorem Coherent.single_turned (h : w.Coherent) (hm : w.Possible m)
    (hr : w.state.Rule debounce m.input s es) (id : String) :
    flights id (w.left m ++ calls es) = s.running id := by
  have hid := h.single id
  unfold State.running at hid ⊢
  rw [flights_append]
  cases m with
  | request c now =>
    cases hr with
    | start operation id' now p hp =>
      obtain ⟨hnone, hfind, -⟩ := hp
      rw [h.sound.get?] at hfind
      have hpid : p.id = id' := by simpa using List.find?_some hfind
      rw [left_request, hid, Table.get?_insert]
      by_cases he : id = id'
      · subst he
        simp [hnone, flights_operation hpid]
      · have hne : p.id ≠ id := hpid ▸ Ne.symm he
        simp [he, flights_operation_of_ne hne]
    | _ => simpa using hid
  | expiry =>
    cases hr with
    | fire w hw => simpa using hid
    | idle hw => simpa using hid
  | report p percent =>
    cases hr with
    | advance id' progress percent hp hle =>
      rw [left_report, hid, Table.get?_insert]
      by_cases he : id = p.id
      · simp [he, hp]
      · simp [he]
    | disregard id' percent hp => simpa using hid
  | answer a =>
    cases a with
    | search generation keyword result =>
      obtain ⟨hp, -, -, hc⟩ := State.Rule.search hr
      rw [hp, hc, flights_nil, List.append_nil, ← hid]
      exact flights_erase_of_none rfl w.underway
    | operation o p result =>
      obtain ⟨hp, -, -, hc⟩ := State.Rule.operation hr
      rw [hp, hc, flights_nil, List.append_nil, Table.get?_erase]
      by_cases he : id = p.id
      · have hon : Call.operationOn? id (.operation o p) = some o := if_pos he.symm
        rw [if_pos he]
        exact (flights_erase hon hm hid).2
      · have hoff : Call.operationOn? id (.operation o p) = none := if_neg (Ne.symm he)
        rw [if_neg he, ← hid]
        exact flights_erase_of_none hoff w.underway

theorem Coherent.turned (h : w.Coherent) (hm : w.Possible m)
    (hr : w.state.Rule debounce m.input s es) : (w.turned m s es).Coherent where
  sound := hr.sound h.sound
  single := h.single_turned hm hr
  nodup := by
    have hleft := h.nodup.sublist (generations_left w m)
    have hfresh : ∀ g ∈ generations (w.left m), g ≠ w.state.generation + 1 := fun g hg => by
      have := h.fired g ((generations_left w m).subset hg)
      omega
    show (generations (w.left m ++ calls es)).Nodup
    rw [generations_append]
    rcases hr.fires with ⟨hg, -⟩ | ⟨hg, -⟩
    · rw [hg, List.append_nil]
      exact hleft
    · rw [hg, List.nodup_append]
      refine ⟨hleft, List.pairwise_singleton _ _, fun a ha b hb => ?_⟩
      rw [List.mem_singleton.1 hb]
      exact hfresh a ha
  fired g hg := by
    have hleft : g ∈ generations (w.left m) → 1 ≤ g ∧ g ≤ w.state.generation := fun hg =>
      h.fired g ((generations_left w m).subset hg)
    change g ∈ generations (w.left m ++ calls es) at hg
    show 1 ≤ g ∧ g ≤ s.generation
    rw [generations_append, List.mem_append] at hg
    rcases hr.fires with ⟨he, hs⟩ | ⟨he, hs, -⟩
    · rw [he] at hg
      have := hleft (by simpa using hg)
      omega
    · rw [he, List.mem_singleton] at hg
      rcases hg with hg | rfl
      · have := hleft hg
        omega
      · omega
  dated := hr.dated h.dated

/-- **Every run keeps the invariant.** -/
theorem coherent_after (debounce : Nat) (load : Bool) (ms : List Move) :
    (after debounce load ms).Coherent :=
  after_keeps coherent_start (fun _ _ _ _ h hm hr => h.turned hm hr) load ms

/-- To show what every run keeps, the invariant may be used. -/
theorem coherent_keeps {P : World → Prop} (hstart : ∀ load, P (start load))
    (hturn : ∀ w m s es, w.Coherent → P w → w.Possible m →
      w.state.Rule debounce m.input s es → P (w.turned m s es))
    (load : Bool) (ms : List Move) : P (after debounce load ms) := by
  have hboth : (after debounce load ms).Coherent ∧ P (after debounce load ms) :=
    after_keeps (P := fun w => w.Coherent ∧ P w)
      (fun load => ⟨coherent_start load, hstart load⟩)
      (fun w m s es h hm hr => ⟨h.1.turned hm hr, hturn w m s es h.1 h.2 hm hr⟩) load ms
  exact hboth.2

/-- To show what holds of every turn of every run, the invariant may be used. -/
theorem forall_turn {Q : Turn → Prop} (hstart : ∀ load, ∀ t ∈ (start load).record, Q t)
    (hturn : ∀ (w : World) (m : Move) s es, w.Coherent → w.state.Rule debounce m.input s es →
      Q ⟨some m.input, es⟩) (load : Bool) (ms : List Move) :
    ∀ t ∈ (after debounce load ms).record, Q t :=
  coherent_keeps (P := fun w => ∀ t ∈ w.record, Q t) hstart
    (fun w m s es hw h _ hr => List.forall_mem_cons.2 ⟨hturn w m s es hw hr, h⟩) load ms

/-! ## Replies -/

/-- The reply to a search in progress answers a call underway. -/
theorem underway_of_reply {g : Nat} {keyword : String} {result : Except Failure (List Package)}
    (hm : w.Possible m) (hi : m.input = .completion (.search g keyword result)) :
    ∃ c ∈ w.underway, c.generation? = some g ∧ w.left m = w.underway.erase c := by
  cases m with
  | answer a =>
    cases a with
    | search g' keyword' result' =>
      cases hi
      exact ⟨_, hm, rfl, rfl⟩
    | operation o p result' => cases hi
  | _ => cases hi

/-- A reply leaves its search answered. -/
theorem Coherent.answered (hw : w.Coherent) (hm : w.Possible m) {g : Nat} {keyword : String}
    {result : Except Failure (List Package)}
    (hi : m.input = .completion (.search g keyword result)) :
    g ∈ generations w.underway ∧ g ∉ generations (w.left m) := by
  obtain ⟨c, hc, hcg, hleft⟩ := underway_of_reply hm hi
  refine ⟨List.mem_filterMap.2 ⟨c, hc, hcg⟩, ?_⟩
  rw [hleft]
  exact not_mem_generations_erase hw.nodup hcg hc

/-- If the latest search is underway after a turn, the turn has fired it, or it was underway before
and the turn is not its reply. -/
theorem Coherent.latest_underway (h : w.Coherent) (hm : w.Possible m)
    (hr : w.state.Rule debounce m.input s es)
    (hg : s.generation ∈ generations (w.turned m s es).underway) :
    (s.generation = w.state.generation + 1 ∧ s.confirmed = w.state.confirmed ∧
        s.generation ∈ generations (calls es)) ∨
      (s.generation = w.state.generation ∧ generations (calls es) = [] ∧
        w.state.generation ∈ generations w.underway ∧
        ∀ keyword result, m.input ≠ .completion (.search w.state.generation keyword result)) := by
  change s.generation ∈ generations (w.left m ++ calls es) at hg
  rcases hr.fires with ⟨hc, hs⟩ | ⟨hc, hs, hconf⟩
  · rw [generations_append, hc, List.append_nil, hs] at hg
    refine .inr ⟨hs, hc, (generations_left w m).subset hg, fun keyword result e => ?_⟩
    exact (h.answered hm e).2 hg
  · refine .inl ⟨hs, hconf, ?_⟩
    rw [hc, hs]
    exact List.mem_singleton_self _

end World

end ExtensionCatalogue.Sync
