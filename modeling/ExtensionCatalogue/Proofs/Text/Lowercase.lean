import ExtensionCatalogue.Text.Lowercase
import Mathlib.Data.List.Infix

/-!
# Lower case of a part of a text

A part of a text is found in it by lower case if both are turned to lower case alike. Every
character is, by itself, except the capital sigma: its form depends on whether it ends a word, and
in a part cut out of a text it may seem to end a word that goes on. `finals` says of each capital
sigma of a part whether it ends a word, given what surrounds the part; where two surroundings agree
on it, the part has the same lower-case form in both.
-/

namespace ExtensionCatalogue.Text

/-- Whether a capital sigma ends a word, where `before` precedes it, nearest character first, and
`after` follows it. -/
def isFinal (before after : List Char) : Bool := meetsCased before && !meetsCased after

/-- Of each capital sigma of a part of a text, whether it ends a word. -/
def finals (before after : List Char) : List Char → List Bool
  | [] => []
  | c :: cs =>
    let rest := finals (c :: before) after cs
    if c = capitalSigma then isFinal before (cs ++ after) :: rest else rest

/-- The lower-case form of a part of a text, where `before` precedes the part, nearest character
first, and `after` follows it. -/
def lowercaseWithin (before after : List Char) : List Char → List Char
  | [] => []
  | c :: cs =>
    (if c = capitalSigma then [if isFinal before (cs ++ after) then 'ς' else 'σ']
      else lowercaseChar c) ++ lowercaseWithin (c :: before) after cs

variable {before after before' after' cs ds : List Char}

/-- A text is turned to lower case part by part. -/
theorem lowercaseAfter_append (before cs after : List Char) :
    lowercaseAfter before (cs ++ after) =
      lowercaseWithin before after cs ++ lowercaseAfter (cs.reverse ++ before) after := by
  induction cs generalizing before with
  | nil => rfl
  | cons c cs ih =>
    have hcs : (c :: cs).reverse ++ before = cs.reverse ++ c :: before := by simp
    rw [List.cons_append, lowercaseAfter, ih, lowercaseWithin, hcs, List.append_assoc]
    rfl

/-- A whole text is a part that nothing surrounds. -/
theorem lowercaseChars_eq_within (cs : List Char) : lowercaseChars cs = lowercaseWithin [] [] cs := by
  have h := lowercaseAfter_append [] cs []
  rw [List.append_nil, lowercaseAfter, List.append_nil] at h
  exact h

theorem lowercaseWithin_congr (h : finals before after cs = finals before' after' cs) :
    lowercaseWithin before after cs = lowercaseWithin before' after' cs := by
  induction cs generalizing before before' with
  | nil => rfl
  | cons c cs ih =>
    unfold finals at h
    unfold lowercaseWithin
    by_cases hc : c = capitalSigma
    · simp only [if_pos hc] at h ⊢
      obtain ⟨hhead, hrest⟩ := List.cons.inj h
      rw [hhead, ih hrest]
    · simp only [if_neg hc] at h ⊢
      rw [ih h]

theorem finals_of_not_mem (h : capitalSigma ∉ cs) (before after : List Char) :
    finals before after cs = [] := by
  induction cs generalizing before with
  | nil => rfl
  | cons c cs ih =>
    rw [List.mem_cons, not_or] at h
    unfold finals
    rw [if_neg (Ne.symm h.1)]
    exact ih h.2 (c :: before)

/-- A part whose capital sigmas end words where they do in the part alone has its own lower-case
form inside that of the text. -/
theorem lowercaseChars_infix_of_finals (before cs after : List Char)
    (h : finals before.reverse after cs = finals [] [] cs) :
    lowercaseChars cs <:+: lowercaseChars (before ++ cs ++ after) := by
  have hbefore := lowercaseAfter_append [] before (cs ++ after)
  have hpart := lowercaseAfter_append before.reverse cs after
  rw [List.append_nil, hpart, lowercaseWithin_congr h, ← lowercaseChars_eq_within,
    ← List.append_assoc, ← List.append_assoc] at hbefore
  exact ⟨_, _, hbefore.symm⟩

/-- Without a capital sigma the surroundings of a part do not matter. -/
theorem lowercaseChars_infix (hcs : capitalSigma ∉ cs) (h : cs <:+: ds) :
    lowercaseChars cs <:+: lowercaseChars ds := by
  obtain ⟨before, after, rfl⟩ := h
  apply lowercaseChars_infix_of_finals
  rw [finals_of_not_mem hcs, finals_of_not_mem hcs]

end ExtensionCatalogue.Text
