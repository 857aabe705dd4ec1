import ExtensionCatalogue.Catalog.Basic
import ExtensionCatalogue.Proofs.Text.Lowercase
import Mathlib.Data.List.TakeWhile

/-!
# What a search finds

A search finds the packages one of whose texts holds the keyword, both in lower case. What a
keyword and a text have in common before they are turned to lower case they need not have in
common afterwards: the letters `ΠΡΟΣ` begin the word `ΠΡΟΣΘΕΤΟ`, but `προς`, with the sigma of the
end of a word, does not begin `προσθετο`. So a keyword that is copied from a text finds it if the
capital sigmas of the keyword end words in the text where they do in the keyword, and a keyword
without capital sigma finds less the longer it gets.
-/

namespace ExtensionCatalogue

open Text (capitalSigma finals isBlank lowercaseChars)

/-- The lower-case needle of a keyword occurs in a text as one list of characters in another. -/
theorem Package.isMatch_iff {p : Package} {needle : String} :
    p.isMatch needle = true ↔
      ∃ s ∈ p.searchable, needle.toList <:+: lowercaseChars s.toList := by
  simp only [Package.isMatch, Bool.or_eq_true, List.any_eq_true, Text.occurs_iff,
    Text.toList_lowercase]
  constructor
  · rintro (hempty | hfound)
    · -- the empty needle occurs in the name, as it does in any text
      have hneedle : needle.toList = [] := by simpa using hempty
      refine ⟨p.name, List.mem_cons_self, ?_⟩
      rw [hneedle]
      exact List.nil_infix
    · exact hfound
  · exact .inr

namespace Catalog

variable {c : Catalog} {p : Package} {k : String}

theorem mem_search : p ∈ c.search k ↔ p ∈ c.packages ∧
    ∃ s ∈ p.searchable, lowercaseChars (Text.trim k).toList <:+: lowercaseChars s.toList := by
  rw [search, List.mem_filter, Package.isMatch_iff, Text.toList_lowercase]

/-- **A keyword copied from a text of a package finds the package**, if the capital sigmas of the
keyword end words in the text where they do in the keyword. -/
theorem mem_search_of_copied (hp : p ∈ c.packages) {s : String} (hs : s ∈ p.searchable)
    {before after : List Char} (hcopied : s.toList = before ++ (Text.trim k).toList ++ after)
    (hfinals : finals before.reverse after (Text.trim k).toList =
      finals [] [] (Text.trim k).toList) : p ∈ c.search k := by
  apply mem_search.2
  refine ⟨hp, s, hs, ?_⟩
  rw [hcopied]
  exact Text.lowercaseChars_infix_of_finals before (Text.trim k).toList after hfinals

/-- Two packages, the second of which has a tag of several words. -/
def addOns : Catalog :=
  ⟨[{ (default : Package) with id := "a", name := "ΠΡΟΣΘΕΤΟ" },
    { (default : Package) with id := "b", tags := ["x", "ΠΡΟΣ ΤΟ ΤΕΛΟΣ"] }]⟩

/-- The sigma of the keyword ends a word in the tag as well. -/
theorem mem_search_of_copied_word :
    ∃ p ∈ addOns.packages, ∃ s ∈ p.searchable,
      s.toList = [] ++ (Text.trim " ΠΡΟΣ\t").toList ++ " ΤΟ ΤΕΛΟΣ".toList ∧
      finals [].reverse " ΤΟ ΤΕΛΟΣ".toList (Text.trim " ΠΡΟΣ\t").toList =
        finals [] [] (Text.trim " ΠΡΟΣ\t").toList ∧
      finals [] [] (Text.trim " ΠΡΟΣ\t").toList = [true] ∧ p ∈ addOns.search " ΠΡΟΣ\t" := by
  let p : Package := { (default : Package) with id := "b", tags := ["x", "ΠΡΟΣ ΤΟ ΤΕΛΟΣ"] }
  have hp : p ∈ addOns.packages := by decide
  have hs : "ΠΡΟΣ ΤΟ ΤΕΛΟΣ" ∈ p.searchable := by decide
  have hcopied : "ΠΡΟΣ ΤΟ ΤΕΛΟΣ".toList =
      [] ++ (Text.trim " ΠΡΟΣ\t").toList ++ " ΤΟ ΤΕΛΟΣ".toList := by decide +kernel
  have hfinals : finals [].reverse " ΤΟ ΤΕΛΟΣ".toList (Text.trim " ΠΡΟΣ\t").toList =
      finals [] [] (Text.trim " ΠΡΟΣ\t").toList := by decide +kernel
  exact ⟨p, hp, _, hs, hcopied, hfinals, by decide +kernel,
    mem_search_of_copied hp hs hcopied hfinals⟩

/-- Not every keyword that occurs in a text of a package finds it: the sigma of `ΠΡΟΣ` ends a word,
and the first sigma of `ΠΡΟΣΘΕΤΟ` does not. -/
theorem not_found_by_part_of_word :
    ¬ ∀ (c : Catalog) (p : Package) (k : String), p ∈ c.packages →
      (∃ s ∈ p.searchable, (Text.trim k).toList <:+: s.toList) → p ∈ c.search k := by
  intro h
  have hfound := h addOns { (default : Package) with id := "a", name := "ΠΡΟΣΘΕΤΟ" } "ΠΡΟΣ"
    (by decide) ⟨"ΠΡΟΣΘΕΤΟ", by decide, by decide +kernel⟩
  have hsearch : addOns.search "ΠΡΟΣ" =
      [{ (default : Package) with id := "b", tags := ["x", "ΠΡΟΣ ΤΟ ΤΕΛΟΣ"] }] := by decide +kernel
  rw [hsearch] at hfound
  revert hfound
  decide

/-! ## Longer keywords -/

/-- A blank keyword is empty once it is trimmed. -/
theorem search_of_blank (c : Catalog) (h : ∀ ch ∈ k.toList, isBlank ch = true) :
    c.search k = c.packages := by
  have htrim : (Text.trim k).toList = [] := by
    rw [Text.toList_trim, Text.trimChars, List.dropWhile_eq_nil_iff.2 h]
    rfl
  rw [search, List.filter_eq_self]
  intro p _
  apply Package.isMatch_iff.2
  refine ⟨p.name, List.mem_cons_self, ?_⟩
  rw [Text.toList_lowercase, htrim]
  exact List.nil_infix

theorem not_mem_trim (h : capitalSigma ∉ k.toList) : capitalSigma ∉ (Text.trim k).toList := by
  rw [Text.toList_trim, Text.trimChars, Text.dropEndWhile]
  intro hmem
  have hdropped := (List.dropWhile_sublist _).subset (List.mem_reverse.1 hmem)
  exact h ((List.dropWhile_sublist _).subset (List.mem_reverse.1 hdropped))

/-- **Typing more only narrows**, where the shorter keyword holds no capital sigma; and a blank
keyword finds everything. -/
theorem search_narrows (c : Catalog) :
    (∀ k₁ k₂ : String, capitalSigma ∉ k₁.toList →
      (Text.trim k₁).toList <:+: (Text.trim k₂).toList → (c.search k₂).Sublist (c.search k₁)) ∧
    ∀ k : String, (∀ ch ∈ k.toList, isBlank ch = true) → c.search k = c.packages := by
  refine ⟨?_, fun k => c.search_of_blank⟩
  intro k₁ k₂ hsigma hinfix
  apply List.monotone_filter_right
  intro p hp
  obtain ⟨s, hs, hfound⟩ := Package.isMatch_iff.1 hp
  rw [Text.toList_lowercase] at hfound
  apply Package.isMatch_iff.2
  refine ⟨s, hs, ?_⟩
  rw [Text.toList_lowercase]
  exact (Text.lowercaseChars_infix (not_mem_trim hsigma) hinfix).trans hfound

/-- A catalogue in which a letter has a lower-case form of two characters, and which holds capital
sigmas. -/
def places : Catalog :=
  ⟨[{ (default : Package) with id := "a", name := "Η ΟΔΟΣ: İSTANBUL" },
    { (default : Package) with id := "b", description := "Hİstory" },
    { (default : Package) with id := "c", author := "istanbul" }]⟩

theorem search_narrows_places :
    capitalSigma ∉ " İST".toList ∧ (Text.trim " İST").toList <:+: (Text.trim "İSTAN\n").toList ∧
      (places.search "İSTAN\n").Sublist (places.search " İST") ∧
      (places.search "İSTAN\n").map (·.id) = ["a"] ∧
      (places.search " İST").map (·.id) = ["a", "b"] ∧
      (∀ ch ∈ "\u2003 ".toList, isBlank ch = true) ∧ places.search "\u2003 " = places.packages := by
  obtain ⟨hnarrows, hblank⟩ := search_narrows places
  have hsigma : capitalSigma ∉ " İST".toList := by decide
  have hinfix : (Text.trim " İST").toList <:+: (Text.trim "İSTAN\n").toList := by decide +kernel
  have hall : ∀ ch ∈ "\u2003 ".toList, isBlank ch = true := List.all_eq_true.1 (by decide)
  exact ⟨hsigma, hinfix, hnarrows _ _ hsigma hinfix, by decide +kernel, by decide +kernel, hall,
    hblank _ hall⟩

end Catalog

end ExtensionCatalogue
