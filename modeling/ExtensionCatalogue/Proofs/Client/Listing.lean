import ExtensionCatalogue.Proofs.Json.Meaning
import ExtensionCatalogue.Proofs.Json.Record
import ExtensionCatalogue.Proofs.Wire

/-!
# What a search keeps

Which values stand for a package is said by `StandsFor`, field by field, and the reader of packages
accepts exactly these (`ofValue?_eq_some_iff`). A listing is then told record by record: a record
that stands for a package with an id is kept, and each other one has a notice with its index. This
takes a body whose records all stand for values; one that does not leaves nothing of the others.
-/

namespace ExtensionCatalogue

open Json

namespace Package

/-- The fields of a package, where `field` is what its record holds under each key: an id and a
name, and any of the others. -/
structure HasFields (field : String → Option Value) (p : Package) : Prop where
  id : ∃ v, field "id" = some v ∧ v.IsText p.id
  name : ∃ v, field "name" = some v ∧ v.IsText p.name
  version : Given "" Value.IsText (field "version") p.version
  author : Given "" Value.IsText (field "author") p.author
  description : Given "" Value.IsText (field "description") p.description
  tags : Given [] Value.IsTexts (field "tags") p.tags
  iconUrl : Given none Value.IsTextOrNull (field "iconUrl") p.iconUrl
  rating : Given .zero Value.IsDouble (field "rating") p.rating
  installs : Given 0 Value.IsWord (field "installs") p.installs
  installed : Given false Value.IsBoolean (field "installed") p.installed

/-- The values that stand for a package: an object, where the last of equal keys counts and other
keys may stand beside the fields, or an array of the first fields in order. -/
inductive StandsFor : Value → Package → Prop
  | object {members : List (String × Value)} {field : String → Option Value} {p : Package}
      (hlast : ∀ key, Holds members key (field key)) (h : HasFields field p) :
      StandsFor (.object members) p
  | array {items : List Value} {p : Package} (htwo : 2 ≤ items.length) (hten : items.length ≤ 10)
      (h : HasFields (fun key => items[fieldNames.idxOf key]?) p) : StandsFor (.array items) p

theorem ofValue?_eq_some_iff_fields {v : Value} {p : Package} :
    ofValue? v = some p ↔ ∃ field, v.fields? fieldNames = some field ∧ HasFields field p := by
  simp only [ofValue?, Option.bind_eq_bind, Option.bind_eq_some_iff, required?_eq_some_iff,
    Value.text?_eq_some_iff, optional?_eq_some_iff (fun _ _ => Value.text?_eq_some_iff),
    optional?_eq_some_iff (fun _ _ => Value.list?_text?_eq_some_iff),
    optional?_eq_some_iff (fun _ _ => Value.nullable?_text?_eq_some_iff),
    optional?_eq_some_iff (fun _ _ => Value.double?_eq_some_iff),
    optional?_eq_some_iff (fun _ _ => Value.word?_eq_some_iff),
    optional?_eq_some_iff (fun _ _ => Value.boolean?_eq_some_iff)]
  constructor
  · rintro ⟨field, hfield, id, hid, name, hname, version, hversion, author, hauthor, description,
      hdescription, tags, htags, iconUrl, hicon, rating, hrating, installs, hinstalls, installed,
      hinstalled, hp⟩
    cases hp
    exact ⟨field, hfield, hid, hname, hversion, hauthor, hdescription, htags, hicon, hrating,
      hinstalls, hinstalled⟩
  · rintro ⟨field, hfield, h⟩
    exact ⟨field, hfield, _, h.id, _, h.name, _, h.version, _, h.author, _, h.description, _,
      h.tags, _, h.iconUrl, _, h.rating, _, h.installs, _, h.installed, rfl⟩

/-- **A value is read as the package it stands for.** -/
theorem ofValue?_eq_some_iff {v : Value} {p : Package} : ofValue? v = some p ↔ StandsFor v p := by
  rw [ofValue?_eq_some_iff_fields]
  constructor
  · rintro ⟨field, hfield, h⟩
    match v with
    | .object members =>
      cases hfield
      exact .object (fun key => lookup?_eq_iff.1 rfl) h
    | .array items =>
      obtain ⟨hten, hfield⟩ := Option.ite_none_right_eq_some.1 hfield
      obtain rfl : field = fun key => items[fieldNames.idxOf key]? :=
        (Option.some.inj hfield).symm.trans (funext fun key => lookup_zip hten key)
      obtain ⟨name, hname, -⟩ := h.name
      obtain ⟨htwo, -⟩ := List.getElem?_eq_some_iff.1 hname
      exact .array htwo hten h
    | .null | .boolean _ | .number _ | .text _ => cases hfield
  · rintro (@⟨members, field, _, hlast, h⟩ | @⟨items, _, -, hten, h⟩)
    · obtain rfl : lookup? members = field := funext fun key => lookup?_eq_iff.2 (hlast key)
      exact ⟨lookup? members, rfl, h⟩
    · refine ⟨_, (if_pos hten).trans (congrArg some ?_), h⟩
      exact funext fun key => lookup_zip hten key

end Package

namespace Client

/-! ## Record by record -/

/-- What becomes of the records from `index` on: the packages of the well-formed ones, and one
notice for each other one. -/
inductive Sifted : Nat → List Value → List Package → List Notice → Prop
  | nil {index : Nat} : Sifted index [] [] []
  | kept {index : Nat} {v : Value} {vs : List Value} {p : Package} {ps : List Package}
      {ns : List Notice} (h : Package.StandsFor v p) (hid : p.id ≠ "")
      (rest : Sifted (index + 1) vs ps ns) : Sifted index (v :: vs) (p :: ps) ns
  | malformed {index : Nat} {v : Value} {vs : List Value} {ps : List Package} {ns : List Notice}
      (h : ∀ p, ¬ Package.StandsFor v p) (rest : Sifted (index + 1) vs ps ns) :
      Sifted index (v :: vs) ps (.malformedEntry index :: ns)
  | nameless {index : Nat} {v : Value} {vs : List Value} {p : Package} {ps : List Package}
      {ns : List Notice} (h : Package.StandsFor v p) (hid : p.id = "")
      (rest : Sifted (index + 1) vs ps ns) : Sifted index (v :: vs) ps (.emptyId index :: ns)

theorem sifted_entries (records : List Value) : ∀ index,
    Sifted index records (entries index records).packages (entries index records).notices := by
  induction records with
  | nil => exact fun _ => .nil
  | cons v vs ih =>
    intro index
    have hrest := ih (index + 1)
    cases hv : Package.ofValue? v with
    | none =>
      have hnone : ∀ p, ¬ Package.StandsFor v p := fun p hp => by
        rw [← Package.ofValue?_eq_some_iff, hv] at hp
        cases hp
      simpa [entries, entry, hv] using Sifted.malformed hnone hrest
    | some p =>
      have hp : Package.StandsFor v p := Package.ofValue?_eq_some_iff.1 hv
      by_cases hid : p.id = ""
      · simpa [entries, entry, hv, hid] using Sifted.nameless hp hid hrest
      · simpa [entries, entry, hv, hid] using Sifted.kept hp hid hrest

theorem Sifted.level {index : Nat} {records : List Value} {ps : List Package} {ns : List Notice}
    (h : Sifted index records ps ns) : ∀ n ∈ ns, n.level = .warning := by
  induction h with
  | nil => simp
  | kept _ _ _ ih => exact ih
  | malformed _ _ ih | nameless _ _ _ ih => exact List.forall_mem_cons.2 ⟨rfl, ih⟩

/-- A listing of the records of a response. A record that is left out does not count for the
others, and how many are kept is told if some are left out. -/
structure Lists (records : List Value) (l : Listing) : Prop where
  sifted : ∃ warnings, Sifted 0 records l.packages warnings ∧
    (∀ n ∈ warnings, n.level = .warning) ∧
    l.notices = warnings ++
      if l.packages.length < records.length then
        [.keptEntries l.packages.length records.length]
      else []
  apart : ∀ before v after, records = before ++ v :: after →
    (∀ p, Package.StandsFor v p → p.id = "") →
    l.packages = (Listing.ofRecords (before ++ after)).packages

theorem lists_ofRecords (records : List Value) : Lists records (.ofRecords records) := by
  constructor
  · refine ⟨(entries 0 records).notices, ?_, (sifted_entries records 0).level, ?_⟩
    · rw [Listing.ofRecords_packages, ← entries_packages records 0]
      exact sifted_entries records 0
    · unfold Listing.ofRecords
      dsimp only
      split <;> simp [*]
  · rintro before v after rfl hv
    simp only [Listing.ofRecords_packages, List.filterMap_append, List.filter_append]
    cases hp : Package.ofValue? v with
    | none => rw [List.filterMap_cons_none hp]
    | some p =>
      have hid : p.id = "" := hv p (Package.ofValue?_eq_some_iff.1 hp)
      rw [List.filterMap_cons_some hp, List.filter_cons_of_neg]
      simp [hid]

/-! ## Bodies -/

/-- What a search makes of a body. A body is read as a whole before its records are looked at, so
a record that stands for no value hides the others. -/
structure ReadsBody (body : List UInt8) : Prop where
  noJson : Node.read? body = none → Listing.read body = .error (.unreadable "Invalid JSON")
  noValue : ∀ n, Node.read? body = some n → (∀ v, ¬ n.Means depthLimit v) →
    Listing.read body = .error (.unreadable "Invalid JSON")
  noArray : ∀ n v, Node.read? body = some n → n.Means depthLimit v → (∀ nodes, n ≠ .array nodes) →
    Listing.read body = .error (.unreadable "Expected a JSON array of packages")
  /-- The array is itself one of the 127 containers that may be open. -/
  records : ∀ nodes vs, Node.read? body = some (.array nodes) →
    List.Forall₂ (Node.Means 126) nodes vs → ∃ l, Listing.read body = .ok l ∧ Lists vs l
  hidden : ∀ nodes, Node.read? body = some (.array nodes) → (∃ n ∈ nodes, ∀ v, ¬ n.Means 126 v) →
    Listing.read body = .error (.unreadable "Invalid JSON")
  /-- Every array of values has such a text, if its numbers survive being written. -/
  written : ∀ vs : List Value, (∀ v ∈ vs, v.Readable 126) →
    body = Utf8.bytes (Value.array vs).write → ∃ l, Listing.read body = .ok l ∧ Lists vs l

section

variable {body : List UInt8} {n : Node}

theorem value_of_means (hn : Node.read? body = some n) {v : Value} (hv : n.Means depthLimit v) :
    Value.read? body = some v := by
  rw [Value.read?, hn, Option.bind_some, hv.ofNode?]

theorem read_of_no_value (h : Value.read? body = none) :
    Listing.read body = .error (.unreadable "Invalid JSON") := by
  rw [Listing.read, h]
  rfl

theorem read_of_no_meaning (hn : Node.read? body = some n) (h : ∀ v, ¬ n.Means depthLimit v) :
    Listing.read body = .error (.unreadable "Invalid JSON") := by
  refine read_of_no_value ?_
  rw [Value.read?, hn, Option.bind_some]
  exact Option.eq_none_iff_forall_ne_some.2 fun v hv => h v (Value.ofNode?_eq_some_iff.1 hv)

theorem read_of_array {nodes : List Node} (hn : Node.read? body = some (.array nodes))
    {vs : List Value} (h : List.Forall₂ (Node.Means 126) nodes vs) :
    Listing.read body = .ok (.ofRecords vs) := by
  have hv : (Node.array nodes).Means depthLimit (.array vs) := Node.means_array_iff.2 ⟨vs, h, rfl⟩
  rw [Listing.read, value_of_means hn hv]

end

/-- **A search keeps exactly the well-formed records** of an array whose records all stand for
values: each that stands for a package with an id is listed as it, in order, and each other one has
a warning with its index. No other body can be read. -/
theorem read_lists (body : List UInt8) : ReadsBody body where
  noJson h := by
    refine read_of_no_value ?_
    rw [Value.read?, h]
    rfl
  noValue n hn h := read_of_no_meaning hn h
  noArray n v hn hv h := by
    rw [Listing.read, value_of_means hn hv]
    cases hv with
    | array _ _ => exact absurd rfl (h _)
    | null | boolean _ | number _ | text _ | object _ _ _ => rfl
  records nodes vs hn h := ⟨.ofRecords vs, read_of_array hn h, lists_ofRecords vs⟩
  hidden nodes hn h := by
    obtain ⟨n, hmem, hnone⟩ := h
    refine read_of_no_meaning hn fun v hv => ?_
    obtain ⟨vs, hvs, -⟩ := Node.means_array_iff.1 hv
    obtain ⟨v, -, hv⟩ := exists_of_forall₂ hvs hmem
    exact hnone v hv
  written vs hreadable hbody := by
    have hread : Value.read? body = some (.array vs) :=
      hbody ▸ Value.Readable.read? (.array hreadable)
    refine ⟨.ofRecords vs, ?_, lists_ofRecords vs⟩
    rw [Listing.read, hread]

/-- An array of a package and a number that is too large for a double: the package is not listed. -/
theorem package_hidden_by_number :
    let body := Utf8.bytes "[\x7b\"id\":\"a\",\"name\":\"A\"\x7d,1e400]"
    (∃ package number v p, Node.read? body = some (.array [package, .number number]) ∧
      package.Means 126 v ∧ Package.StandsFor v p ∧ p.id = "a") ∧
      ∀ l, Listing.read body ≠ .ok l := by
  intro body
  let record : Value := .object [("id", .text "a"), ("name", .text "A")]
  let number : Numeral := ⟨false, ['1'], none, some (false, ['4', '0', '0'])⟩
  have htokens : tokens? body = some (Node.array [record.node, .number number]).tokens := by
    decide +kernel
  have hnode : Node.read? body = some (.array [record.node, .number number]) := by
    rw [Node.read?, htokens, Option.bind_some, Node.ofTokens?_tokens]
  have hreadable : record.Readable 126 := .object (by simp [Value.Readable.text])
  have hpackage := Package.ofValue?_eq_some_iff.1
    (rfl : Package.ofValue? record = some ⟨"a", "A", "", "", "", [], none, .zero, 0, false⟩)
  have hread : Listing.read body = .error (.unreadable "Invalid JSON") := by decide +kernel
  refine ⟨⟨_, number, _, _, hnode, Value.ofNode?_eq_some_iff.1 hreadable.ofNode?, hpackage, rfl⟩,
    fun l hl => ?_⟩
  rw [hread] at hl
  cases hl

/-- Equal keys, an array of one field, an empty id. -/
example : Listing.read (Utf8.bytes
    "[\x7b\"id\":0,\"id\":\"a\",\"name\":\"A\"\x7d,[\"b\"],[\"\",\"B\"]]") =
    .ok ⟨[⟨"a", "A", "", "", "", [], none, .zero, 0, false⟩],
      [.malformedEntry 1, .emptyId 2, .keptEntries 1 3]⟩ := by decide +kernel

end Client

end ExtensionCatalogue
