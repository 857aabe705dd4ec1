import ExtensionCatalogue.Client.RequestUrl
import ExtensionCatalogue.Proofs.Text.Form
import Mathlib.Data.List.TakeWhile

/-!
# The URL of a request

The paths of requests are words of letters. A letter means nothing but itself anywhere in a URL,
so a word that is resolved against a directory is appended to its path. The query of a request is
then its one pair, and reading the query gives the pair back.
-/

namespace ExtensionCatalogue

namespace Url

/-! ## Letters -/

theorem forall_letter {P : Char → Prop}
    (h : ∀ n ∈ List.range 128, (Char.ofNat n).isAlpha = true → P (Char.ofNat n)) {c : Char}
    (hc : c.isAlpha = true) : P c := by
  have hlt : c.toNat < 128 := by
    show c.val.toNat < 128
    rcases Bool.or_eq_true_iff.1 hc with hupper | hlower
    · have hle : c.val ≤ 'Z'.val := (of_decide_eq_true hupper).2
      exact Nat.lt_of_le_of_lt (UInt32.le_iff_toNat_le.1 hle) (by decide)
    · have hle : c.val ≤ 'z'.val := of_decide_eq_true (Bool.and_eq_true_iff.1 hlower).2
      exact Nat.lt_of_le_of_lt (UInt32.le_iff_toNat_le.1 hle) (by decide)
  have hback : Char.ofNat c.toNat = c := Char.ofNat_toNat c
  have hn := h c.toNat (List.mem_range.2 hlt)
  rw [hback] at hn
  exact hn hc

/-- What a letter is not. -/
structure Letter (c : Char) : Prop where
  visible : ¬ c.toNat ≤ 0x20
  kept : c ∉ ['\t', '\n', '\r']
  scheme : isSchemeChar c = true
  noFragment : c ≠ '#'
  noQuery : c ≠ '?'
  noSlash : isSlash c = false
  noDot : c.toLower ≠ '.' ∧ c.toLower ≠ '%'
  encoded : Percent.encodeChar inPath c = [c]

theorem letter_of_isAlpha {c : Char} (h : c.isAlpha = true) : Letter c := by
  obtain ⟨⟨hvisible, hkept, hscheme, hfragment, hquery⟩, hslash, hdot, hencoded⟩ :=
    forall_letter (P := fun c =>
      (¬ c.toNat ≤ 0x20 ∧ c ∉ ['\t', '\n', '\r'] ∧ isSchemeChar c = true ∧ c ≠ '#' ∧ c ≠ '?') ∧
      isSlash c = false ∧ (c.toLower ≠ '.' ∧ c.toLower ≠ '%') ∧
      Percent.encodeChar inPath c = [c]) (by decide +kernel) h
  exact ⟨hvisible, hkept, hscheme, hfragment, hquery, hslash, hdot, hencoded⟩

/-- A word of letters, the path of a request. -/
def IsWord (cs : List Char) : Prop := cs ≠ [] ∧ ∀ c ∈ cs, c.isAlpha = true

variable {cs : List Char}

theorem isWord_of_all {s : String} (h : (!s.toList.isEmpty && s.toList.all Char.isAlpha) = true) :
    IsWord s.toList := by
  rw [Bool.and_eq_true] at h
  exact ⟨by simpa using h.1, List.all_eq_true.1 h.2⟩

theorem IsWord.letter (h : IsWord cs) : ∀ c ∈ cs, Letter c := fun c hc =>
  letter_of_isAlpha (h.2 c hc)

/-! ## Reading a word -/

theorem span_eq_self {p : Char → Bool} (h : ∀ c ∈ cs, p c = true) : cs.span p = (cs, []) := by
  rw [List.span_eq_takeWhile_dropWhile, List.takeWhile_eq_self_iff.2 h,
    List.dropWhile_eq_nil_iff.2 h]

theorem clean_word (h : IsWord cs) : clean cs = cs := by
  have houter : ∀ ds : List Char, (∀ c ∈ ds, c ∈ cs) →
      ds.dropWhile (fun c => decide (c.toNat ≤ 0x20)) = ds := by
    intro ds hds
    refine List.dropWhile_eq_self_iff.2 fun hl => ?_
    have hvisible := (h.letter _ (hds _ (List.getElem_mem hl))).visible
    simpa using hvisible
  unfold clean Text.dropEndWhile
  dsimp only
  rw [houter cs fun _ => id, houter cs.reverse fun _ => List.mem_reverse.1, List.reverse_reverse]
  exact List.filter_eq_self.2 fun c hc => decide_eq_true (h.letter c hc).kept

/-- A word alone has no scheme. -/
theorem splitScheme?_word (h : IsWord cs) : splitScheme? cs = none := by
  have hspan : cs.span isSchemeChar = (cs, []) := span_eq_self fun c hc => (h.letter c hc).scheme
  unfold splitScheme?
  split
  · rw [hspan]
    split <;> rfl
  · rfl

theorem sections_word (h : IsWord cs) : sections cs = ⟨cs, none, none⟩ := by
  have hfragment : cs.span (· ≠ '#') = (cs, []) :=
    span_eq_self fun c hc => decide_eq_true (h.letter c hc).noFragment
  have hquery : cs.span (· ≠ '?') = (cs, []) :=
    span_eq_self fun c hc => decide_eq_true (h.letter c hc).noQuery
  unfold sections
  rw [hfragment]
  dsimp only
  rw [hquery]

/-- The letters of a word make up its segment. -/
theorem readSegments_letters {family : Family} (hfamily : family ≠ .file)
    (h : ∀ c ∈ cs, Letter c) (d : Draft) :
    readSegments family d cs = closeSegment family false ⟨d.before, cs.reverse ++ d.segment⟩ := by
  induction cs generalizing d with
  | nil => rfl
  | cons c cs ih =>
    have hc : Letter c := h c List.mem_cons_self
    have hslash : c ≠ '/' ∧ c ≠ '\\' := by
      have := hc.noSlash
      simpa [isSlash] using this
    have hpush : d.push family c = ⟨d.before, c :: d.segment⟩ := by
      simp [Draft.push, hfamily, hc.encoded]
    rw [readSegments, if_neg (by simp [hslash]), hpush,
      ih fun c' hc' => h c' (List.mem_cons_of_mem c hc')]
    simp

theorem readPath_word {family : Family} (hfamily : family ≠ .file) (h : IsWord cs)
    (start : List Char) : (readPath family start cs).1 = start ++ cs := by
  have hdots : isDoubleDot cs = false ∧ isDot cs = false := by
    cases cs with
    | nil => exact absurd rfl h.1
    | cons c cs =>
      obtain ⟨hdot, hpercent⟩ := (h.letter c List.mem_cons_self).noDot
      simp [isDoubleDot, isDot, hdot, hpercent]
  unfold readPath
  rw [readSegments_letters hfamily h.letter]
  simp [closeSegment, hdots.1, hdots.2, hfamily]

/-- A word names what lies below a directory. -/
theorem join_word {base : Url} (hscheme : Family.ofScheme base.scheme = .special)
    (hroot : base.isRootless = false) {front : List Char}
    (hpath : base.path.toList = front ++ ['/']) {word : String} (h : IsWord word.toList) :
    base.join word = .ok ⟨base.scheme, base.authority, base.path ++ word, none, none⟩ := by
  have hfile : base.scheme ≠ "file" := by
    intro hfile
    rw [hfile] at hscheme
    cases hscheme
  have hpop : popSegment .special base.path.toList.reverse = base.path.toList.reverse := by
    rw [hpath, List.reverse_append]
    rfl
  have hpathWord : String.ofList (base.path.toList ++ word.toList) = base.path ++ word := by
    rw [String.ofList_append, String.ofList_toList, String.ofList_toList]
  unfold join resolve
  dsimp only
  rw [clean_word h, splitScheme?_word h, sections_word h]
  cases hcs : word.toList with
  | nil => exact absurd hcs h.1
  | cons c cs =>
    have hslash : isSlash c = false := (h.letter c (hcs ▸ List.mem_cons_self)).noSlash
    have hstart : base.path.toList.isEmpty = false := by rw [hpath]; simp
    rw [← hcs]
    simp only [hroot, hfile, ofRelative, hcs, hslash, hscheme, hpop, List.reverse_reverse, hstart,
      List.isEmpty_cons, Bool.false_and, Bool.false_eq_true, ↓reduceIte]
    rw [← hcs, readPath_word (by decide) h, ← hpathWord]
    rfl

/-! ## Directories -/

theorem endsWith_slash {s : String} : s.endsWith "/" = true ↔ ['/'] <:+ s.toList := by
  rw [String.endsWith_eq_endsWith_toSlice, String.Slice.endsWith_string_iff, String.copy_toSlice]
  rfl

/-- The path of a directory: a slash ends it, which is added if it is missing. -/
def directoryPath (path : String) : String :=
  if ['/'] <:+ path.toList then path else path ++ "/"

theorem slash_suffix_directoryPath (path : String) : ['/'] <:+ (directoryPath path).toList := by
  unfold directoryPath
  split
  · assumption
  · rw [String.toList_append]
    exact List.suffix_append _ _

theorem prefix_directoryPath (path : String) : path.toList <+: (directoryPath path).toList := by
  unfold directoryPath
  split
  · exact List.prefix_refl _
  · rw [String.toList_append]
    exact List.prefix_append _ _

theorem directory_eq {u : Url} (hfile : u.scheme ≠ "file") :
    u.directory = ⟨u.scheme, u.authority, directoryPath u.path, none, none⟩ := by
  unfold directory directoryPath
  by_cases hslash : ['/'] <:+ u.path.toList
  · simp only [endsWith_slash.2 hslash, if_pos hslash, if_true]
  · have hends : ¬ u.path.endsWith "/" = true := fun h => hslash (endsWith_slash.1 h)
    simp only [if_neg hends, if_neg hslash, if_neg hfile]

/-- A directory is no more rootless than the URL. -/
theorem isRootless_directory {u : Url} (hfile : u.scheme ≠ "file") (h : u.isRootless = false) :
    u.directory.isRootless = false := by
  rw [directory_eq hfile]
  unfold isRootless at h ⊢
  rw [Bool.and_eq_false_iff] at h ⊢
  rcases h with hsome | hslash
  · exact .inl hsome
  · rw [Bool.not_eq_false', String.startsWith_string_iff] at hslash ⊢
    exact .inr (hslash.trans (prefix_directoryPath u.path))

end Url

/-! ## Requests -/

namespace Client

/-- **The URL of a request**: the path of the endpoint as a directory and the word, and the one
pair. -/
theorem requestUrl_word {endpoint : Url}
    (hscheme : Url.Family.ofScheme endpoint.scheme = .special)
    (hroot : endpoint.isRootless = false) {word : String} (h : Url.IsWord word.toList)
    (key value : String) :
    requestUrl endpoint word key value =
      .ok ⟨endpoint.scheme, endpoint.authority, Url.directoryPath endpoint.path ++ word,
        some (String.ofList (Form.encodePair key value)), none⟩ := by
  have hfile : endpoint.scheme ≠ "file" := by
    intro hfile
    rw [hfile] at hscheme
    cases hscheme
  obtain ⟨front, hfront⟩ := Url.slash_suffix_directoryPath endpoint.path
  let base : Url :=
    ⟨endpoint.scheme, endpoint.authority, Url.directoryPath endpoint.path, none, none⟩
  have hdirectory : endpoint.directory = base := Url.directory_eq hfile
  have hspecial : Url.Family.ofScheme base.scheme = .special := hscheme
  have hbase : base.isRootless = false := by
    rw [← hdirectory]
    exact Url.isRootless_directory hfile hroot
  have hjoin : endpoint.directory.join word = .ok ⟨endpoint.scheme, endpoint.authority,
      Url.directoryPath endpoint.path ++ word, none, none⟩ := by
    rw [hdirectory]
    exact Url.join_word hspecial hbase hfront.symm h
  rw [requestUrl, if_neg (by rw [hroot]; decide), hjoin]
  rfl

end Client

end ExtensionCatalogue
