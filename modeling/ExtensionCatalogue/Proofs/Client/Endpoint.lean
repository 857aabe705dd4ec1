import ExtensionCatalogue.Proofs.Client.RequestUrl

/-!
# Requests to any endpoint

An endpoint is any `http` or `https` URL that has been read from a text. Reading gives such a URL an
authority, so a request to it always has a URL: that of the endpoint as a directory, with the path
of the request below it and the pair of the request as its query. Nothing else of the endpoint is
in it, and the pair can be read back.
-/

namespace ExtensionCatalogue

namespace Url

/-! ## URLs that have been read -/

/-- Steps that succeed together succeed one by one. -/
theorem exists_of_bind {α : Type} {x : Except Problem α} {f : α → Except Problem Url} {u : Url}
    (h : (x >>= f) = .ok u) : ∃ a, f a = .ok u := by
  cases x with
  | error problem => cases h
  | ok a => exact ⟨a, h⟩

theorem authority_ofAuthority {scheme : String} {s : Sections} {body : List Char} {u : Url}
    (h : ofAuthority scheme s body = .ok u) : u.authority.isSome = true := by
  unfold ofAuthority at h
  obtain ⟨read, h⟩ := exists_of_bind h
  cases h
  rfl

theorem authority_ofFileHost {s : Sections} {body : List Char} {u : Url}
    (h : ofFileHost s body = .ok u) : u.authority.isSome = true := by
  unfold ofFileHost at h
  dsimp only at h
  -- whether the host is left out or read, the URL is made of it in the same way
  split at h
  all_goals
    obtain ⟨host, h⟩ := exists_of_bind h
    split at h
    · cases h
      rfl
    · split at h
      · cases h
        rfl
      · cases h
        rfl

/-- Without a base, a `file` URL has an authority as well. -/
theorem authority_ofFile {s : Sections} {u : Url} (h : ofFile none s = .ok u) :
    u.authority.isSome = true := by
  have hslash : ∀ {rest}, ofFile.oneSlash none s rest = .ok u → u.authority.isSome = true := by
    intro rest h
    cases h
    rfl
  unfold ofFile at h
  split at h
  · cases h
    rfl
  · split at h
    · split at h
      · split at h
        · exact authority_ofFileHost h
        · exact hslash h
      · exact hslash h
    · cases h
      rfl

/-- A URL of a scheme that always has a host, once read from a text, has an authority. -/
theorem authority_of_parse {text : String} {u : Url} (h : parse text = .ok u)
    (hs : (Family.ofScheme u.scheme).isSpecial = true) : u.authority.isSome = true := by
  unfold parse resolve at h
  dsimp only at h
  split at h
  · rename_i scheme rest _
    unfold ofScheme at h
    split at h
    · exact authority_ofFile h
    · exact authority_ofAuthority h
    · -- the scheme of any other URL is as it was read
      rename_i hother
      have hscheme : u.scheme ≠ scheme := by
        rintro rfl
        rw [hother] at hs
        cases hs
      split at h
      · exact authority_ofAuthority h
      · cases h
        exact absurd rfl hscheme
      · cases h
        exact absurd rfl hscheme
  · cases h

/-! ## Endpoints -/

/-- Endpoints that differ at most in a slash at the end of the path, in the query and in the
fragment. -/
structure SameDirectory (e f : Url) : Prop where
  scheme : f.scheme = e.scheme
  authority : f.authority = e.authority
  path : f.path = e.path ∨ (f.path = e.path ++ "/" ∧ ¬ ['/'] <:+ e.path.toList) ∨
    (e.path = f.path ++ "/" ∧ ¬ ['/'] <:+ f.path.toList)

/-- A slash that is missing is added. -/
theorem directoryPath_append_slash {path : String} (h : ¬ ['/'] <:+ path.toList) :
    directoryPath (path ++ "/") = directoryPath path := by
  have hslash : ['/'] <:+ (path ++ "/").toList := by
    rw [String.toList_append]
    exact List.suffix_append _ _
  unfold directoryPath
  rw [if_pos hslash, if_neg h]

theorem SameDirectory.directoryPath {e f : Url} (h : SameDirectory e f) :
    directoryPath f.path = directoryPath e.path := by
  rcases h.path with hsame | ⟨hlonger, hno⟩ | ⟨hshorter, hno⟩
  · rw [hsame]
  · rw [hlonger, directoryPath_append_slash hno]
  · rw [hshorter, directoryPath_append_slash hno]

end Url

namespace Client

/-- A URL that is what a request to an endpoint asks for. -/
structure AsksFor (endpoint : Url) (path key value : String) (u : Url) : Prop where
  scheme : u.scheme = endpoint.scheme
  /-- The user, the host and the port are those of the endpoint. -/
  authority : u.authority = endpoint.authority
  path : u.path =
    (if ['/'] <:+ endpoint.path.toList then endpoint.path else endpoint.path ++ "/") ++ path
  fragment : u.fragment = none
  query : ∃ q, u.query = some q ∧ Form.pairs (Utf8.bytes q) = [(key, value)]

/-- The pair of a request can be read back from its query. -/
theorem pairs_query (key value : String) :
    Form.pairs (Utf8.bytes (String.ofList (Form.encodePair key value))) = [(key, value)] := by
  rw [Utf8.bytes, String.toList_ofList]
  exact Form.pairs_encodePair key value

/-- The texts of URLs that differ in nothing but the pair tell the pairs apart. -/
theorem pair_of_text {scheme path key value key' value' : String} {a : Option Authority}
    (h : Url.text ⟨scheme, a, path, some (String.ofList (Form.encodePair key' value')), none⟩ =
      Url.text ⟨scheme, a, path, some (String.ofList (Form.encodePair key value)), none⟩) :
    key' = key ∧ value' = value := by
  unfold Url.text at h
  simp only [String.append_right_inj, String.append_left_inj] at h
  have hpairs := pairs_query key' value'
  rw [h, pairs_query] at hpairs
  obtain ⟨rfl, rfl⟩ : key = key' ∧ value = value' := by simpa using hpairs
  exact ⟨rfl, rfl⟩

theorem isWord_of_mem {path : String} (h : path ∈ ["extensions", "install", "uninstall"]) :
    Url.IsWord path.toList := by
  have hall : ∀ w ∈ ["extensions", "install", "uninstall"],
      (!w.toList.isEmpty && w.toList.all Char.isAlpha) = true := by decide
  exact Url.isWord_of_all (hall path h)

/-- **The URL of a request to any endpoint.** It is what the request asks for, the same for all
endpoints that are the same directory, and another one for another pair. -/
theorem requestUrl_asksFor {text : String} {endpoint : Url} (hread : Url.parse text = .ok endpoint)
    (hscheme : endpoint.scheme ∈ ["http", "https"]) {path : String}
    (hpath : path ∈ ["extensions", "install", "uninstall"]) (key value : String) :
    ∃ u, requestUrl endpoint path key value = .ok u ∧ AsksFor endpoint path key value u ∧
      (∀ f, endpoint.SameDirectory f → requestUrl f path key value = .ok u) ∧
      ∀ key' value' u', requestUrl endpoint path key' value' = .ok u' → u'.text = u.text →
        key' = key ∧ value' = value := by
  have hspecial : Url.Family.ofScheme endpoint.scheme = .special := by
    have hall : ∀ s ∈ ["http", "https"], Url.Family.ofScheme s = .special := by decide
    exact hall _ hscheme
  have hauthority : endpoint.authority.isSome = true := by
    apply Url.authority_of_parse hread
    rw [hspecial]
    rfl
  -- what the endpoint has in common with the endpoints that are the same directory
  have hurl : ∀ f, endpoint.SameDirectory f → ∀ key value, requestUrl f path key value =
      .ok ⟨endpoint.scheme, endpoint.authority, Url.directoryPath endpoint.path ++ path,
        some (String.ofList (Form.encodePair key value)), none⟩ := by
    intro f hf key value
    have hroot : f.isRootless = false := by
      unfold Url.isRootless
      rw [hf.authority, Option.isNone_eq_false_iff.2 hauthority]
      rfl
    rw [requestUrl_word (hf.scheme ▸ hspecial) hroot (isWord_of_mem hpath), hf.scheme,
      hf.authority, hf.directoryPath]
  have hself := hurl endpoint ⟨rfl, rfl, .inl rfl⟩
  refine ⟨_, hself key value, ⟨rfl, rfl, rfl, rfl, _, rfl, pairs_query key value⟩,
    fun f hf => hurl f hf key value, ?_⟩
  intro key' value' u' hu' htext
  rw [hself key' value'] at hu'
  cases hu'
  exact pair_of_text htext

/-- An endpoint with a user, a port, an escaped path, a query and a fragment. -/
def bracketed : Url :=
  ⟨"http", some ⟨"u", some "p", .ipv6 ⟨[0, 0, 0, 0, 0, 0, 0, 1]⟩, some 8765⟩, "/a%20b",
    some "stale=1", some "x"⟩

theorem requestUrl_asksFor_bracketed :
    Url.parse "HTTP://u:p@[::1]:8765/./a b?stale=1#x" = .ok bracketed ∧
      bracketed.scheme ∈ ["http", "https"] ∧ "install" ∈ ["extensions", "install", "uninstall"] ∧
      ∃ u, requestUrl bracketed "install" "id" "r&d +%é" = .ok u ∧
        AsksFor bracketed "install" "id" "r&d +%é" u ∧
        requestUrl { bracketed with path := "/a%20b/", query := none, fragment := none } "install"
          "id" "r&d +%é" = .ok u ∧
        (∀ u', requestUrl bracketed "install" "id" "r&d %é" = .ok u' → u'.text ≠ u.text) ∧
        u.text = "http://u:p@[::1]:8765/a%20b/install?id=r%26d+%2B%25%C3%A9" := by
  have hread : Url.parse "HTTP://u:p@[::1]:8765/./a b?stale=1#x" = .ok bracketed := by
    decide +kernel
  have hscheme : bracketed.scheme ∈ ["http", "https"] := by decide
  have hpath : "install" ∈ ["extensions", "install", "uninstall"] := by decide
  obtain ⟨u, hu, hasks, hsame, hpair⟩ := requestUrl_asksFor hread hscheme hpath "id" "r&d +%é"
  refine ⟨hread, hscheme, hpath, u, hu, hasks, hsame _ ⟨rfl, rfl, .inr (.inl ?_)⟩, ?_, ?_⟩
  · decide +kernel
  · intro u' hu' htext
    exact absurd (hpair "id" "r&d %é" u' hu' htext).2 (by decide)
  · have htext : (requestUrl bracketed "install" "id" "r&d +%é").map Url.text =
        .ok "http://u:p@[::1]:8765/a%20b/install?id=r%26d+%2B%25%C3%A9" := by decide +kernel
    rw [hu] at htext
    exact Except.ok.inj htext

end Client

end ExtensionCatalogue
