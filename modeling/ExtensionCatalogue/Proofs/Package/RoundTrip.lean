import ExtensionCatalogue.Catalog.Basic
import ExtensionCatalogue.Proofs.Wire

/-!
# Packages survive the wire

The text of a list of packages has two readers. A catalogue reads records directly from the text,
a search reads generic values first and then the packages among them. Both come to the same values
(`records?_writeAll` and `read?_writeAll`), so both give the packages back, the search without
those that have an empty id. What a record leaves out is what its reader fills in.
-/

namespace ExtensionCatalogue.Package

open Json

/-- Read directly, a record is heard as it is in generic JSON. -/
theorem record?_toValue (p : Package) : p.toValue.node.record? fieldNames = p.heard := by
  have hknown : ∀ m ∈ p.membersWith (.number (.real p.rating)), m.1 ∈ fieldNames := fun m hm =>
    (p.keys_sublist _).subset (List.mem_map_of_mem hm)
  rw [toValue, Node.record?_object hknown (p.keys_nodup _)]
  exact ofNode?_toValue 126 p

theorem records?_writeAll (ps : List Package) :
    (Node.read? (Utf8.bytes (writeAll ps))).bind (Node.records? fieldNames) = ps.mapM heard := by
  have hheard : (Node.record? fieldNames ∘ Value.node) ∘ toValue = heard := by
    funext p
    exact p.record?_toValue
  rw [writeAll, Node.read?_write, Option.bind_some, Value.node, itemNodes_eq, Node.records?,
    List.mapM_map, List.mapM_map, hheard]

theorem readAll?_writeAll {ps : List Package} (h : ∀ p ∈ ps, RatingReadsBack p.rating) :
    readAll? (Utf8.bytes (writeAll ps)) = some ps := by
  obtain ⟨records, hheard, hpackages⟩ := exists_records h
  rw [readAll?, records?_writeAll, hheard, Option.bind_some, hpackages]

/-- An icon is written if it is set. -/
theorem iconUrl_mem_keys (rating : Value) (p : Package) :
    "iconUrl" ∈ (p.membersWith rating).map (·.1) ↔ p.iconUrl ≠ none := by
  rw [keys_eq]
  cases p.iconUrl <;> cases p.installed <;> simp

/-- The flag is written if it is true. -/
theorem installed_mem_keys (rating : Value) (p : Package) :
    "installed" ∈ (p.membersWith rating).map (·.1) ↔ p.installed = true := by
  rw [keys_eq]
  cases p.iconUrl <;> cases p.installed <;> simp

/-- **Packages survive the wire.** If the text of every rating is read as that rating, the text of
a list of packages is read directly as the list, which a catalogue then takes up, and as a search
response it lists the packages whose id is not empty. An icon that is not set and a flag that is
false are not in the text. -/
theorem survives_wire {ps : List Package} (hratings : ∀ p ∈ ps, RatingReadsBack p.rating) :
    readAll? (Utf8.bytes (writeAll ps)) = some ps ∧
      Catalog.read? (Utf8.bytes (writeAll ps)) = some (Catalog.ofPackages ps) ∧
      (∃ listing, Client.Listing.read (Utf8.bytes (writeAll ps)) = .ok listing ∧
        listing.packages = ps.filter (!·.id.isEmpty)) ∧
      ∀ p ∈ ps, ∃ members, p.toValue = .object members ∧
        ("iconUrl" ∈ members.map (·.1) ↔ p.iconUrl ≠ none) ∧
        ("installed" ∈ members.map (·.1) ↔ p.installed = true) := by
  have hdirect := readAll?_writeAll hratings
  refine ⟨hdirect, ?_, Client.Listing.read_writeAll hratings, ?_⟩
  · rw [Catalog.read?, hdirect, Option.map_some]
  · intro p _
    exact ⟨_, rfl, p.iconUrl_mem_keys _, p.installed_mem_keys _⟩

/-- Quotes, a backslash, control characters, a character outside the basic plane, the largest
count, an icon with an empty text, a negative zero, and a package without an id. -/
theorem survives_wire_escaped :
    let first : Package := ⟨"a\"\\/", "\u0000\u001f\n\t", "😀", "é", "\u2028", ["", "\"", "b"],
      some "", ⟨0x4012CCCCCCCCCCCD⟩, 0xFFFFFFFFFFFFFFFF, true⟩
    let second : Package := ⟨"", "Second", "", "", "", [], none, ⟨0x8000000000000000⟩, 0, false⟩
    (∀ p ∈ [first, second], RatingReadsBack p.rating) ∧
      readAll? (Utf8.bytes (writeAll [first, second])) = some [first, second] ∧
      ∃ listing, Client.Listing.read (Utf8.bytes (writeAll [first, second])) = .ok listing ∧
        listing.packages = [first] := by
  intro first second
  have hratings : ∀ p ∈ [first, second], RatingReadsBack p.rating := by decide +kernel
  obtain ⟨hdirect, -, ⟨listing, hread, hpackages⟩, -⟩ := survives_wire hratings
  exact ⟨hratings, hdirect, listing, hread, hpackages⟩

end ExtensionCatalogue.Package
