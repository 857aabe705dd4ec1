import ExtensionCatalogue.Client.Listing
import ExtensionCatalogue.Operation.Response
import ExtensionCatalogue.Proofs.Json.Value
import Mathlib.Data.List.Sublists

/-!
# Packages and answers are read back

What a package or an answer to an operation is written as stands for it again. A rating is a
double, and what its text is read as is taken as it comes: the record that a package is heard as
differs from the one that was written in its rating at most. A listing is then the packages whose
records are understood, less those with an empty id.
-/

namespace ExtensionCatalogue

open Json

namespace Package

/-! ## The record of a package -/

/-- The members before the rating. -/
def front (p : Package) : List (String × Value) :=
  [("id", .text p.id), ("name", .text p.name), ("version", .text p.version),
    ("author", .text p.author), ("description", .text p.description),
    ("tags", .array (p.tags.map .text))] ++
  p.iconUrl.toList.map fun url => ("iconUrl", .text url)

/-- The members after the rating. -/
def back (p : Package) : List (String × Value) :=
  ("installs", .number (.integer p.installs.toNat)) ::
    (if p.installed then [("installed", .boolean true)] else [])

theorem membersWith_eq (rating : Value) (p : Package) :
    p.membersWith rating = p.front ++ ("rating", rating) :: p.back := by
  unfold membersWith front back
  cases p.iconUrl <;> rfl

/-- The keys of a record. They are those of the fields, in order. -/
theorem keys_eq (rating : Value) (p : Package) :
    (p.membersWith rating).map (·.1) =
      ["id", "name", "version", "author", "description", "tags"] ++
        (if p.iconUrl.isSome then ["iconUrl"] else []) ++ ["rating", "installs"] ++
        (if p.installed then ["installed"] else []) := by
  unfold membersWith
  cases p.iconUrl <;> cases p.installed <;> rfl

theorem keys_sublist (rating : Value) (p : Package) :
    ((p.membersWith rating).map (·.1)).Sublist fieldNames := by
  rw [keys_eq]
  cases p.iconUrl.isSome <;> cases p.installed <;> decide

theorem keys_nodup (rating : Value) (p : Package) :
    ((p.membersWith rating).map (·.1)).Nodup :=
  (p.keys_sublist rating).nodup (by decide)

theorem installs_le (p : Package) : p.installs.toNat ≤ largestWord := by
  have hlt := p.installs.toNat_lt
  unfold largestWord
  omega

theorem readable_front (depth : Nat) (p : Package) :
    ∀ m ∈ p.front, Value.Readable (depth + 1) m.2 := by
  have htags : Value.Readable (depth + 1) (.array (p.tags.map .text)) := by
    refine .array fun v hv => ?_
    obtain ⟨s, -, rfl⟩ := List.mem_map.1 hv
    exact .text s
  intro m hm
  rcases List.mem_append.1 hm with hm | hm
  · simp only [List.mem_cons, List.not_mem_nil, or_false] at hm
    rcases hm with rfl | rfl | rfl | rfl | rfl | rfl
    case inr.inr.inr.inr.inr => exact htags
    all_goals exact .text _
  · obtain ⟨url, -, rfl⟩ := List.mem_map.1 hm
    exact .text url

theorem readable_back (depth : Nat) (p : Package) :
    ∀ m ∈ p.back, Value.Readable (depth + 1) m.2 := by
  intro m hm
  rcases List.mem_cons.1 hm with rfl | hm
  · exact Value.Readable.integer p.installs_le
  · split at hm
    · rw [List.mem_singleton.1 hm]
      exact .boolean true
    · cases hm

/-! ## Reading a record -/

theorem word?_installs (p : Package) :
    Value.word? (.number (.integer p.installs.toNat)) = some p.installs := by
  show (if p.installs.toNat ≤ largestWord then some (UInt64.ofNat p.installs.toNat) else none) = _
  rw [if_pos p.installs_le, UInt64.ofNat_toNat]

/-- **A record stands for its package**, but for what its rating stands for. -/
theorem ofValue?_membersWith (rating : Value) (p : Package) :
    ofValue? (.object (p.membersWith rating)) =
      rating.double?.map fun x => { p with rating := x } := by
  have hkeys := p.keys_nodup rating
  have hid := required?_of_mem hkeys
    (show ("id", .text p.id) ∈ p.membersWith rating by simp [membersWith]) Value.text?
  have hname := required?_of_mem hkeys
    (show ("name", .text p.name) ∈ p.membersWith rating by simp [membersWith]) Value.text?
  have hversion := optional?_of_mem hkeys
    (show ("version", .text p.version) ∈ p.membersWith rating by simp [membersWith]) ""
    Value.text?
  have hauthor := optional?_of_mem hkeys
    (show ("author", .text p.author) ∈ p.membersWith rating by simp [membersWith]) ""
    Value.text?
  have hdescription := optional?_of_mem hkeys
    (show ("description", .text p.description) ∈ p.membersWith rating by simp [membersWith]) ""
    Value.text?
  have htags := optional?_of_mem hkeys
    (show ("tags", .array (p.tags.map .text)) ∈ p.membersWith rating by simp [membersWith]) []
    (Value.list? Value.text?)
  have hrating := optional?_of_mem hkeys
    (show ("rating", rating) ∈ p.membersWith rating by simp [membersWith]) Binary64.zero
    Value.double?
  have hinstalls := optional?_of_mem hkeys
    (show ("installs", .number (.integer p.installs.toNat)) ∈ p.membersWith rating by
      simp [membersWith]) 0 Value.word?
  have hicon : optional? none (Value.nullable? Value.text?)
      (lookup? (p.membersWith rating) "iconUrl") = some p.iconUrl := by
    cases h : p.iconUrl with
    | none =>
      refine optional?_of_not_mem ?_ _ _
      rw [keys_eq, h]
      cases p.installed <;> decide
    | some url =>
      exact optional?_of_mem hkeys
        (show ("iconUrl", .text url) ∈ p.membersWith rating by simp [membersWith, h]) _ _
  have hinstalled : optional? false Value.boolean?
      (lookup? (p.membersWith rating) "installed") = some p.installed := by
    cases h : p.installed with
    | false =>
      refine optional?_of_not_mem ?_ _ _
      rw [keys_eq, h]
      cases p.iconUrl.isSome <;> decide
    | true =>
      exact optional?_of_mem hkeys
        (show ("installed", .boolean true) ∈ p.membersWith rating by simp [membersWith, h]) _ _
  simp only [ofValue?, Value.fields?, Option.bind_eq_bind, Option.bind_some, hid, hname, hversion,
    hauthor, hdescription, htags, hrating, hinstalls, hicon, hinstalled, Value.text?, Value.list?_text,
    word?_installs]
  cases rating.double? <;> rfl

/-! ## Catalogues on the wire -/

/-- The record that a package is heard as, if its rating is heard at all. -/
def heard (p : Package) : Option Value :=
  (Number.real p.rating).heard.map fun r => .object (p.membersWith r)

theorem ofNode?_toValue (depth : Nat) (p : Package) :
    Value.ofNode? (depth + 2) p.toValue.node = p.heard := by
  rw [toValue, membersWith_eq, Value.ofNode?_object_around (p.readable_front depth)
    (p.readable_back depth), Value.ofNode?_number]
  unfold heard
  cases (Number.real p.rating).heard with
  | none => rfl
  | some r => rw [Option.map_some, Option.map_some, membersWith_eq]

/-- **What a list of packages is read as.** -/
theorem read?_writeAll (ps : List Package) :
    Value.read? (Utf8.bytes (writeAll ps)) = (ps.mapM heard).map .array := by
  have hheard : (fun v => Value.ofNode? 126 v.node) ∘ toValue = heard := by
    funext p
    exact ofNode?_toValue 124 p
  show Value.read? (Utf8.bytes (Value.array (ps.map toValue)).write) = _
  rw [Value.read?_write, depthLimit, Value.ofNode?_array, List.mapM_map, hheard]

/-- The package that a record is heard as differs in its rating at most. -/
theorem ofValue?_heard {p q : Package} {v : Value} (hv : q.heard = some v)
    (hp : ofValue? v = some p) : ∃ x, p = { q with rating := x } := by
  obtain ⟨r, -, rfl⟩ := Option.map_eq_some_iff.1 hv
  rw [ofValue?_membersWith] at hp
  obtain ⟨x, -, rfl⟩ := Option.map_eq_some_iff.1 hp
  exact ⟨x, rfl⟩

/-- Whether the text of a rating is read back as the rating. -/
def RatingReadsBack (x : Binary64) : Prop :=
  (Value.read? (Utf8.bytes (Value.number (.real x)).write)).bind Value.double? = some x

instance (x : Binary64) : Decidable (RatingReadsBack x) :=
  inferInstanceAs (Decidable (_ = some x))

theorem heard_of_ratingReadsBack {p : Package} (h : RatingReadsBack p.rating) :
    p.heard.bind ofValue? = some p := by
  obtain ⟨r, hr, hdouble⟩ := Option.bind_eq_some_iff.1 h
  have hheard : p.heard = some (.object (p.membersWith r)) := by
    rw [heard, Number.heard, hr]
    rfl
  rw [hheard, Option.bind_some, ofValue?_membersWith, hdouble]
  rfl

/-- Packages whose ratings are read back are heard as records that stand for them. -/
theorem exists_records {ps : List Package} (h : ∀ p ∈ ps, RatingReadsBack p.rating) :
    ∃ records, ps.mapM heard = some records ∧ records.mapM ofValue? = some ps := by
  induction ps with
  | nil => exact ⟨[], rfl, rfl⟩
  | cons p ps ih =>
    obtain ⟨v, hv, hp⟩ := Option.bind_eq_some_iff.1
      (heard_of_ratingReadsBack (h p List.mem_cons_self))
    obtain ⟨vs, hvs, hps⟩ := ih fun q hq => h q (List.mem_cons_of_mem p hq)
    refine ⟨v :: vs, ?_, ?_⟩
    · rw [List.mapM_cons, hv, hvs]
      rfl
    · rw [List.mapM_cons, hp, hps]
      rfl

end Package

/-! ## Listings -/

namespace Client

/-- The packages that a search keeps. -/
theorem entries_packages (records : List Value) : ∀ index,
    (entries index records).packages =
      (records.filterMap Package.ofValue?).filter (!·.id.isEmpty) := by
  induction records with
  | nil => intro index; rfl
  | cons v vs ih =>
    intro index
    cases hv : Package.ofValue? v with
    | none => simp [entries, entry, hv, ih]
    | some p => by_cases hid : p.id.isEmpty = true <;> simp [entries, entry, hv, ih, hid]

theorem Listing.ofRecords_packages (records : List Value) :
    (Listing.ofRecords records).packages =
      (records.filterMap Package.ofValue?).filter (!·.id.isEmpty) := by
  have hpackages : (Listing.ofRecords records).packages = (entries 0 records).packages := by
    unfold Listing.ofRecords
    dsimp only
    split <;> rfl
  rw [hpackages, entries_packages]

/-- **A list of packages is listed as it is**, less those with an empty id. -/
theorem Listing.read_writeAll {ps : List Package}
    (h : ∀ p ∈ ps, Package.RatingReadsBack p.rating) :
    ∃ l, Listing.read (Utf8.bytes (Package.writeAll ps)) = .ok l ∧
      l.packages = ps.filter (!·.id.isEmpty) := by
  obtain ⟨records, hheard, hpackages⟩ := Package.exists_records h
  refine ⟨.ofRecords records, ?_, ?_⟩
  · rw [Listing.read, Package.read?_writeAll, hheard]
    rfl
  · rw [Listing.ofRecords_packages, filterMap_of_mapM_eq_some hpackages]

/-- Whatever the ratings are read as, a listed package has the id of one that was written. -/
theorem Listing.id_of_mem {ps : List Package} {l : Listing}
    (h : Listing.read (Utf8.bytes (Package.writeAll ps)) = .ok l) {p : Package}
    (hp : p ∈ l.packages) : p.id ≠ "" ∧ ∃ q ∈ ps, q.id = p.id := by
  rw [Listing.read, Package.read?_writeAll] at h
  cases hheard : ps.mapM Package.heard with
  | none =>
    rw [hheard] at h
    cases h
  | some records =>
    rw [hheard] at h
    cases h
    rw [Listing.ofRecords_packages] at hp
    obtain ⟨hmem, hid⟩ := List.mem_filter.1 hp
    obtain ⟨v, hv, hvalue⟩ := List.mem_filterMap.1 hmem
    obtain ⟨q, hq, hqv⟩ := mem_of_mapM_eq_some hheard hv
    obtain ⟨x, rfl⟩ := Package.ofValue?_heard hqv hvalue
    refine ⟨fun hempty => ?_, q, hq, rfl⟩
    rw [hempty] at hid
    exact absurd hid (by decide)

end Client

/-! ## Answers to operations -/

namespace OperationResponse

/-- **An answer is read back from its text.** -/
theorem read?_write (r : OperationResponse) : read? (Utf8.bytes r.write) = some r := by
  obtain ⟨status, id⟩ := r
  have hrecord : ∀ ms : List (String × Value), (∀ m ∈ ms, m.1 ∈ fieldNames) →
      (ms.map (·.1)).Nodup → (∀ m ∈ ms, Value.Readable depthLimit m.2) →
      read? (Utf8.bytes (Value.object ms).write) = ofValue? (.object ms) := by
    intro ms hkeys hdistinct hreadable
    have hread : (Value.object ms).node.record? fieldNames = some (.object ms) := by
      rw [Node.record?_object hkeys hdistinct, (Value.Readable.object hreadable).ofNode?]
    rw [read?, Node.read?_write, Option.bind_some, hread]
    rfl
  cases id with
  | none =>
    refine (hrecord [("status", .text status)] ?_ ?_ ?_).trans rfl
    · simp [fieldNames]
    · simp
    · simp [Value.Readable.text]
  | some id =>
    refine (hrecord [("status", .text status), ("id", .text id)] ?_ ?_ ?_).trans rfl
    · simp [fieldNames]
    · simp
    · simp [Value.Readable.text]

end OperationResponse

end ExtensionCatalogue
