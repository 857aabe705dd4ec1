import ExtensionCatalogue.Proofs.Client.Listing

/-!
# Packages as a JSON array

`IsArrayOf` says of a text that it is the JSON array of some packages: its tree shows them in order,
and it is read as values that stand for them. Only the second of these depends on the ratings: each
finite one is shown by a numeral that it is nearest to, but reading such a numeral rounds twice and
may miss it. `writeAll` writes such a text of every list.
-/

namespace ExtensionCatalogue.Package

open Json

/-- How a rating stands in a text. JSON has numerals for finite numbers only. -/
inductive ShowsRating (x : Binary64) : Node → Prop
  | finite {m : Numeral} (h : x.isFinite = true) (hnames : m.Names x) : ShowsRating x (.number m)
  | other (h : x.isFinite = false) : ShowsRating x .null

/-- How a package stands in a text: an object of its fields in order, where an icon that is not set
and a flag that is false are left out. -/
inductive Shows (p : Package) : Node → Prop
  | object {before after : List (Literal × Node)} {key : Literal} {rating : Node}
      (hbefore : (Node.object before).Means 2 (.object p.front))
      (hkey : Literal.text? key = some "rating") (hrating : ShowsRating p.rating rating)
      (hafter : (Node.object after).Means 2 (.object p.back)) :
      Shows p (.object (before ++ (key, rating) :: after))

/-- A text that is the JSON array of some packages. -/
structure IsArrayOf (ps : List Package) (text : String) : Prop where
  shown : ∃ items, Node.read? (Utf8.bytes text) = some (.array items) ∧ List.Forall₂ Shows ps items
  values : (∀ p ∈ ps, RatingReadsBack p.rating) →
    ∃ vs, Value.read? (Utf8.bytes text) = some (.array vs) ∧ List.Forall₂ StandsFor vs ps

theorem showsRating_node (x : Binary64) : ShowsRating x (Value.number (.real x)).node := by
  show ShowsRating x (Number.real x).node
  rw [Number.node]
  by_cases h : x.isFinite = true
  · obtain ⟨m, hm, hnames, hchars⟩ := Number.chars_real h
    rw [hchars, Numeral.ofChars?_chars hm]
    exact .finite h hnames
  · have hchars : (Number.real x).chars = ['n', 'u', 'l', 'l'] := if_neg h
    have hnone : Numeral.ofChars? ['n', 'u', 'l', 'l'] = none := by decide
    rw [hchars, hnone]
    exact .other (Bool.not_eq_true _ ▸ h)

theorem means_of_readable {depth : Nat} {ms : List (String × Value)}
    (h : ∀ m ∈ ms, Value.Readable depth m.2) :
    (Node.object (memberNodes ms)).Means (depth + 1) (.object ms) :=
  Value.ofNode?_eq_some_iff.1 (Value.Readable.object h).ofNode?

/-- **A package is written as an object that shows it.** -/
theorem shows_node (p : Package) : p.Shows p.toValue.node := by
  have hmembers : memberNodes (p.membersWith (.number (.real p.rating))) =
      memberNodes p.front ++
        (Literal.ofText "rating", (Value.number (.real p.rating)).node) :: memberNodes p.back := by
    rw [membersWith_eq, memberNodes_eq, memberNodes_eq, memberNodes_eq, List.map_append,
      List.map_cons]
  rw [toValue, Value.node, hmembers]
  exact .object (means_of_readable (p.readable_front 0)) (Literal.text?_ofText "rating")
    (showsRating_node p.rating) (means_of_readable (p.readable_back 0))

/-- **A list of packages is written as their JSON array.** -/
theorem isArrayOf_writeAll (ps : List Package) : IsArrayOf ps (writeAll ps) where
  shown := by
    refine ⟨ps.map fun p => p.toValue.node, ?_, ?_⟩
    · rw [writeAll, Node.read?_write, Value.node, itemNodes_eq, List.map_map]
      rfl
    · exact List.forall₂_map_right_iff.2 (List.forall₂_same.2 fun p _ => p.shows_node)
  values h := by
    obtain ⟨vs, hheard, hpackages⟩ := exists_records h
    refine ⟨vs, ?_, ?_⟩
    · rw [read?_writeAll, hheard]
      rfl
    · exact (mapM_eq_some_iff.1 hpackages).imp fun _ _ => ofValue?_eq_some_iff.1

end ExtensionCatalogue.Package
