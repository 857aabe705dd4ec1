import ExtensionCatalogue.Proofs.Sync.Coherence

/-!
# Reading the record

What the record of a run tells on its own, without the state of the controller: which searches
have been fired, which replies were acted on, which result was applied last, and how an operation
on a package has ended since a search was fired. The state agrees with it on one number: the
generation of the latest search is the number of searches fired (`Counted.length_fired`).
-/

namespace ExtensionCatalogue.Sync

/-- The flag that an operation leaves on the package, if the input is its success. -/
def Input.success? (id : String) : Input → Option Bool
  | .completion (.operation o i _ (.ok ())) => if i = id then some o.target else none
  | _ => none

namespace Turn

/-- The generations of the searches fired. -/
def fired (t : Turn) : List Nat := generations (calls t.effects)

/-- The generation and the result of the search that replied. -/
def reply? (t : Turn) : Option (Nat × Except Failure (List Package)) :=
  match t.input with
  | some (.completion (.search generation _ result)) => some (generation, result)
  | _ => none

/-- Whether listeners were told anything. -/
def isTold (t : Turn) : Bool := !(events t.effects).isEmpty

/-- The flag of the package after the operation on it that succeeded. -/
def success? (t : Turn) (id : String) : Option Bool := t.input.bind (·.success? id)

end Turn

/-- The generations of all searches fired, the latest first. -/
def fired (record : List Turn) : List Nat := record.flatMap Turn.fired

/-- The generations of the replies that were acted on, the latest first. -/
def heard (record : List Turn) : List Nat :=
  record.filterMap fun t => if t.isTold then t.reply?.map (·.1) else none

/-- The generation and the packages of the response applied last. A reply is applied if it is to
the latest search, whose generation is the number of searches fired. There are none if no response
has been applied, or the one applied last was unreadable. -/
def applied? : List Turn → Option (Nat × List Package)
  | [] => none
  | t :: past =>
    match t.reply? with
    | some (generation, result) =>
      if generation = (fired past).length then
        match result with
        | .ok packages => some (generation, packages)
        | .error (.unreadable _) => none
        | .error _ => applied? past
      else applied? past
    | none => applied? past

/-- The flag left by the last operation on the package that has succeeded since search
`generation` was fired. -/
def outcome? (generation : Nat) (id : String) : List Turn → Option Bool
  | [] => none
  | t :: past =>
    if generation ∈ t.fired then none
    else (t.success? id).or (outcome? generation id past)

theorem Turn.fired_of_calls {i : Option Input} {es : List Effect} (h : calls es = []) :
    Turn.fired ⟨i, es⟩ = [] := by
  rw [Turn.fired, h, generations_nil]

theorem outcome?_of_fired {g : Nat} {t : Turn} (h : g ∈ t.fired) (id : String)
    (past : List Turn) : outcome? g id (t :: past) = none := if_pos h

theorem outcome?_cons {g : Nat} {t : Turn} (h : g ∉ t.fired) (id : String) (past : List Turn) :
    outcome? g id (t :: past) = (t.success? id).or (outcome? g id past) := if_neg h

/-! ## The response applied last -/

section

variable {t : Turn} {past : List Turn} {g : Nat}

theorem applied?_of_no_reply (h : t.reply? = none) (past : List Turn) :
    applied? (t :: past) = applied? past := by
  rw [applied?, h]

theorem applied?_of_stale {result : Except Failure (List Package)}
    (hr : t.reply? = some (g, result)) (hg : g ≠ (fired past).length) :
    applied? (t :: past) = applied? past := by
  rw [applied?, hr]
  exact if_neg hg

theorem applied?_of_packages {ps : List Package} (hr : t.reply? = some (g, .ok ps))
    (hg : g = (fired past).length) : applied? (t :: past) = some (g, ps) := by
  rw [applied?, hr]
  exact if_pos hg

theorem applied?_of_unreadable {cause : String}
    (hr : t.reply? = some (g, .error (.unreadable cause))) (hg : g = (fired past).length) :
    applied? (t :: past) = none := by
  rw [applied?, hr]
  exact if_pos hg

/-- Whichever search it is to, any other failure is not applied. -/
theorem applied?_of_failure {failure : Failure} (hr : t.reply? = some (g, .error failure))
    (hf : ∀ cause, failure ≠ .unreadable cause) (past : List Turn) :
    applied? (t :: past) = applied? past := by
  rw [applied?, hr]
  dsimp only
  split
  · cases failure with
    | unreadable cause => exact absurd rfl (hf cause)
    | _ => rfl
  · rfl

end

/-! ## Searches are numbered -/

namespace World

/-- The searches fired are numbered from one up to the latest. -/
def Counted (w : World) : Prop := (fired w.record).reverse = List.range' 1 w.state.generation

theorem counted_start (load : Bool) : (start load).Counted := by
  cases load <;> rfl

variable {debounce : Nat} {w : World} {m : Move} {s : State} {es : List Effect}

theorem Counted.turned (h : w.Counted) (hr : w.state.Rule debounce m.input s es) :
    (w.turned m s es).Counted := by
  have hcons : fired (w.turned m s es).record = generations (calls es) ++ fired w.record := rfl
  show (fired (w.turned m s es).record).reverse = List.range' 1 s.generation
  rw [hcons, List.reverse_append, h]
  rcases hr.fires with ⟨hc, hs⟩ | ⟨hc, hs, -⟩
  · rw [hc, hs, List.reverse_nil, List.append_nil]
  · rw [hc, hs, List.range'_1_concat, Nat.add_comm 1]
    rfl

/-- The number of searches fired is the generation of the latest. -/
theorem Counted.length_fired (h : w.Counted) : (fired w.record).length = w.state.generation := by
  rw [← List.length_reverse, h, List.length_range']

theorem counted_after (debounce : Nat) (load : Bool) (ms : List Move) :
    (after debounce load ms).Counted :=
  after_keeps counted_start (fun _ _ _ _ h _ hr => h.turned hr) load ms

end World

end ExtensionCatalogue.Sync
