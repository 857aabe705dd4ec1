import ExtensionCatalogue.Json.Node

/-!
# A tree is built from its tokens

The tokens of a tree, in order, build that tree. Since the builder keeps the containers around the
place that is read, what it makes of a part is stated for any such containers: the tokens of a
node complete it in the container around it, and those of the rest of a container complete the
container.
-/

namespace ExtensionCatalogue.Json

mutual

def Node.tokens : Node → List Token
  | .null => [.null]
  | .boolean b => [.boolean b]
  | .number m => [.number m]
  | .text l => [.text l]
  | .array [] => [.openArray, .closeArray]
  | .array (n :: ns) => .openArray :: (n.tokens ++ itemTokens ns)
  | .object [] => [.openObject, .closeObject]
  | .object ((key, n) :: ms) =>
    .openObject :: .text key :: .colon :: (n.tokens ++ memberTokens ms)

/-- The tokens of the items after the first one, and of the end of the array. -/
def itemTokens : List Node → List Token
  | [] => [.closeArray]
  | n :: ns => .comma :: (n.tokens ++ itemTokens ns)

/-- The tokens of the members after the first one, and of the end of the object. -/
def memberTokens : List (Literal × Node) → List Token
  | [] => [.closeObject]
  | (key, n) :: ms => .comma :: .text key :: .colon :: (n.tokens ++ memberTokens ms)

end

section

variable {α β : Type} {f : β → α → Option β} {a b : β}

theorem foldlM_cons_of_eq_some {x : α} (h : f a x = some b) (xs : List α) :
    (x :: xs).foldlM f a = xs.foldlM f b := by
  rw [List.foldlM_cons, h]
  rfl

theorem foldlM_append_of_eq_some {xs : List α} (h : xs.foldlM f a = some b) (ys : List α) :
    (xs ++ ys).foldlM f a = ys.foldlM f b := by
  rw [List.foldlM_append, h]
  rfl

end

/-- The first token of a node does not close a container. -/
theorem Node.tokens_eq_cons (n : Node) : ∃ t ts, n.tokens = t :: ts ∧ t ≠ .closeArray := by
  match n with
  | .null | .boolean _ | .number _ | .text _ | .array [] | .array (_ :: _) | .object []
  | .object ((_, _) :: _) =>
    unfold Node.tokens
    exact ⟨_, _, rfl, Token.noConfusion⟩

namespace Builder

def run (b : Builder) (ts : List Token) : Option Builder := ts.foldlM step b

theorem run_cons {b b' : Builder} {t : Token} (h : b.step t = some b') (ts : List Token) :
    b.run (t :: ts) = b'.run ts :=
  foldlM_cons_of_eq_some h ts

theorem run_append {b b' : Builder} {ts : List Token} (h : b.run ts = some b')
    (us : List Token) : b.run (ts ++ us) = b'.run us :=
  foldlM_append_of_eq_some h us

/-- The first item of an array is read as any value is. -/
theorem run_firstItem (n : Node) (frames : List Frame) (us : List Token) :
    run ⟨frames, .firstItem⟩ (n.tokens ++ us) =
      run ⟨.array [] :: frames, .value⟩ (n.tokens ++ us) := by
  obtain ⟨t, ts, htokens, ht⟩ := n.tokens_eq_cons
  have hstep : step ⟨frames, .firstItem⟩ t = step ⟨.array [] :: frames, .value⟩ t := by
    cases t with
    | closeArray => exact absurd rfl ht
    | _ => rfl
  rw [htokens, List.cons_append, run, run, List.foldlM_cons, List.foldlM_cons, hstep]

mutual

/-- The tokens of a node complete it. -/
theorem run_tokens : ∀ (n : Node) (frames : List Frame),
    run ⟨frames, .value⟩ n.tokens = some (complete frames n)
  | .null, _ | .boolean _, _ | .number _, _ | .text _, _ => by
    unfold Node.tokens
    rfl
  | .array [], _ | .object [], _ => by
    unfold Node.tokens
    rfl
  | .array (n :: ns), frames => by
    unfold Node.tokens
    calc run ⟨frames, .value⟩ (.openArray :: (n.tokens ++ itemTokens ns))
        = run ⟨frames, .firstItem⟩ (n.tokens ++ itemTokens ns) := run_cons rfl _
      _ = run ⟨.array [] :: frames, .value⟩ (n.tokens ++ itemTokens ns) := run_firstItem n frames _
      _ = run ⟨frames, .moreItems [n]⟩ (itemTokens ns) := run_append (run_tokens n _) _
      _ = some (complete frames (.array (n :: ns))) := run_itemTokens ns frames [n]
  | .object ((key, n) :: ms), frames => by
    unfold Node.tokens
    calc run ⟨frames, .value⟩ (.openObject :: .text key :: .colon :: (n.tokens ++ memberTokens ms))
        = run ⟨.object [] key :: frames, .value⟩ (n.tokens ++ memberTokens ms) := by
          rw [run_cons rfl, run_cons rfl, run_cons rfl]
      _ = run ⟨frames, .moreMembers [(key, n)]⟩ (memberTokens ms) :=
        run_append (run_tokens n _) _
      _ = some (complete frames (.object ((key, n) :: ms))) :=
        run_memberTokens ms frames [(key, n)]

/-- The tokens of the rest of an array complete it. -/
theorem run_itemTokens : ∀ (ns : List Node) (frames : List Frame) (items : List Node),
    run ⟨frames, .moreItems items⟩ (itemTokens ns) =
      some (complete frames (.array (items.reverse ++ ns)))
  | [], frames, items => by
    unfold itemTokens
    rw [List.append_nil]
    rfl
  | n :: ns, frames, items => by
    unfold itemTokens
    calc run ⟨frames, .moreItems items⟩ (.comma :: (n.tokens ++ itemTokens ns))
        = run ⟨.array items :: frames, .value⟩ (n.tokens ++ itemTokens ns) := run_cons rfl _
      _ = run ⟨frames, .moreItems (n :: items)⟩ (itemTokens ns) := run_append (run_tokens n _) _
      _ = some (complete frames (.array ((n :: items).reverse ++ ns))) :=
        run_itemTokens ns frames (n :: items)
      _ = some (complete frames (.array (items.reverse ++ n :: ns))) := by
        rw [List.reverse_cons, List.append_assoc, List.singleton_append]

/-- The tokens of the rest of an object complete it. -/
theorem run_memberTokens : ∀ (ms : List (Literal × Node)) (frames : List Frame)
    (members : List (Literal × Node)),
    run ⟨frames, .moreMembers members⟩ (memberTokens ms) =
      some (complete frames (.object (members.reverse ++ ms)))
  | [], frames, members => by
    unfold memberTokens
    rw [List.append_nil]
    rfl
  | (key, n) :: ms, frames, members => by
    unfold memberTokens
    calc run ⟨frames, .moreMembers members⟩
          (.comma :: .text key :: .colon :: (n.tokens ++ memberTokens ms))
        = run ⟨.object members key :: frames, .value⟩ (n.tokens ++ memberTokens ms) := by
          rw [run_cons rfl, run_cons rfl, run_cons rfl]
      _ = run ⟨frames, .moreMembers ((key, n) :: members)⟩ (memberTokens ms) :=
        run_append (run_tokens n _) _
      _ = some (complete frames (.object (((key, n) :: members).reverse ++ ms))) :=
        run_memberTokens ms frames ((key, n) :: members)
      _ = some (complete frames (.object (members.reverse ++ (key, n) :: ms))) := by
        rw [List.reverse_cons, List.append_assoc, List.singleton_append]

end

end Builder

/-- **A tree is built from its tokens.** -/
theorem Node.ofTokens?_tokens (n : Node) : Node.ofTokens? n.tokens = some n := by
  show (Builder.run ⟨[], .value⟩ n.tokens).bind Builder.finish? = some n
  rw [Builder.run_tokens]
  rfl

end ExtensionCatalogue.Json
