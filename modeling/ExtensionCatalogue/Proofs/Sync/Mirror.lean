import ExtensionCatalogue.Proofs.Sync.LatestSearch

/-!
# A listener is up to date

A listener shows the two views of the registry change it was told of last, and nothing before the
first. Whatever a turn does to the registry is told in the same turn, as it is after the change, so
a listener always shows the registry. A response with packages is told by one change, and then by a
line that counts the packages shown.
-/

namespace ExtensionCatalogue.Sync

/-- What a listener that shows two views shows after an event. -/
def refresh (views : List Package × List Package) : Event → List Package × List Package
  | .registryChanged installed recommended => (installed, recommended)
  | _ => views

/-- What a listener shows after some events, the installed packages and the others. -/
def mirror (es : List Event) : List Package × List Package := es.foldl refresh ([], [])

/-- The line that counts the packages shown. -/
def countLine (n : Nat) : String :=
  let plural := if n = 1 then "" else "s"
  s!"Showing {n} result{plural}"

/-- How a response with packages is told: by one change, to the views of the registry after it, and
then by one line, which counts the packages shown, each id of the response once. -/
structure Announced (packages : List Package) (after : Registry) (told : List Event) : Prop where
  count : after.installed.length + after.recommended.length =
    (packages.map (·.id)).eraseDups.length
  line : ∃ line,
    told = [.registryChanged after.installed after.recommended, .status line] ∧
    line.isError = false ∧
    (line.text = "No extensions found." ↔ after.installed = [] ∧ after.recommended = []) ∧
    (after.installed ≠ [] ∨ after.recommended ≠ [] →
      line.text = countLine (after.installed.length + after.recommended.length))

/-- What it means that a listener is up to date, at one point of a run. -/
structure World.Mirrored (debounce : Nat) (w : World) : Prop where
  /-- A listener shows the installed packages and the others, in the order of the registry. -/
  views : mirror (events w.effects) = (w.state.registry.installed, w.state.registry.recommended)
  /-- No id is shown twice. -/
  distinct :
    (((mirror (events w.effects)).1 ++ (mirror (events w.effects)).2).map (·.id)).Nodup
  /-- A response with packages to the latest search is announced. -/
  response : ∀ keyword packages,
    let reply := .completion (.search (fired w.record).length keyword (.ok packages))
    Announced packages (w.state.step debounce reply).1.registry
      (events (w.state.step debounce reply).2)

/-! ## The line -/

theorem text_found_of_ne {n : Nat} (h : n ≠ 0) (h1 : n ≠ 1) :
    (Status.found n).text = s!"Showing {n} results" := by
  unfold Status.text
  split <;> simp_all

theorem text_found {n : Nat} (h : n ≠ 0) : (Status.found n).text = countLine n := by
  by_cases h1 : n = 1
  · subst h1
    decide +kernel
  · rw [text_found_of_ne h h1, countLine, if_neg h1]
    simp only [String.append_assoc]
    congr 2

theorem text_found_iff (n : Nat) : (Status.found n).text = "No extensions found." ↔ n = 0 := by
  constructor
  · intro h
    by_contra hn
    rw [text_found hn] at h
    -- the two lines begin with different letters
    have hhead := congrArg (fun s => s.toList.head?) h
    simp only [countLine, String.toList_append] at hhead
    cases hhead
  · rintro rfl
    rfl

/-! ## Turns -/

namespace State

variable {debounce : Nat} {s t : State} {i : Input} {es : List Effect}

/-- A listener that shows the registry before a turn shows it after the turn. -/
theorem Rule.refreshed (h : s.Rule debounce i t es) :
    (events es).foldl refresh (s.registry.installed, s.registry.recommended) =
      (t.registry.installed, t.registry.recommended) := by
  cases h with
  | found keyword packages => simp [refresh]
  | unreadable keyword cause => simp [refresh]
  | done operation id name =>
    -- a package that has left the registry leaves nothing to tell
    cases hs : s.registry.setInstalled? id operation.target with
    | none => simp [change, succeeded, hs, refresh]
    | some r => simp [change, succeeded, hs, refresh]
  | failed operation id name failure => simp [refresh]
  | _ => rfl

/-- The response to the latest search is announced. -/
theorem Rule.announced {keyword : String} {packages : List Package}
    (h : s.Rule debounce (.completion (.search s.generation keyword (.ok packages))) t es) :
    Announced packages t.registry (events es) := by
  have hviews := t.registry.length_views
  have hids := congrArg List.length h.ids
  rw [List.length_map, ← hviews] at hids
  refine ⟨hids, ?_⟩
  have hevents : events es = [.registryChanged t.registry.installed t.registry.recommended,
      .status (.found (t.registry.installed.length + t.registry.recommended.length))] := by
    rw [hviews]
    cases h with
    | stale g keyword result hg => exact absurd rfl hg
    | found keyword packages => simp [Registry.size]
  refine ⟨_, hevents, rfl, ?_, fun hne => text_found ?_⟩
  · rw [text_found_iff, Nat.add_eq_zero_iff, List.length_eq_zero_iff, List.length_eq_zero_iff]
  · intro hzero
    rw [Nat.add_eq_zero_iff, List.length_eq_zero_iff, List.length_eq_zero_iff] at hzero
    rcases hne with hne | hne
    · exact hne hzero.1
    · exact hne hzero.2

end State

/-! ## Runs -/

namespace World

/-- A listener shows the registry after every run. -/
theorem mirror_after (debounce : Nat) (load : Bool) (ms : List Move) :
    let w := after debounce load ms
    mirror (events w.effects) = (w.state.registry.installed, w.state.registry.recommended) := by
  refine after_keeps
    (P := fun w => mirror (events w.effects) =
      (w.state.registry.installed, w.state.registry.recommended))
    (fun load => ?_) (fun w m s es h _ hr => ?_) load ms
  · cases load <;> rfl
  · rw [effects_turned, events_append, mirror, List.foldl_append]
    rw [mirror] at h
    rw [h]
    exact hr.refreshed

/-- **A listener is always up to date.** After every run it shows the installed packages and the
others, each in the order of the registry and none twice, and the next response with packages is
announced by one change, to what the registry holds then, and by a line with their number. -/
theorem mirrored_after (debounce : Nat) (load : Bool) (ms : List Move) :
    (after debounce load ms).Mirrored debounce := by
  have hviews := mirror_after debounce load ms
  have hsound := (coherent_after debounce load ms).sound
  have hlatest := (counted_after debounce load ms).length_fired
  refine ⟨hviews, ?_, fun keyword packages => ?_⟩
  · rw [hviews]
    exact ((Registry.perm_views _).map (·.id)).nodup_iff.2 hsound.nodup
  · rw [hlatest]
    exact (State.rule_step debounce _ _).announced

end World

end ExtensionCatalogue.Sync
