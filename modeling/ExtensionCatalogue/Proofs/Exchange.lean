import ExtensionCatalogue.Proofs.Client.Operation
import ExtensionCatalogue.Proofs.Client.RequestUrl
import ExtensionCatalogue.Proofs.Server.Router
import ExtensionCatalogue.Proofs.Wire

/-!
# Client and server agree

A client that speaks to a server at the root of an `http` endpoint gets from it what the catalogue
holds. The URL of a request carries a key and a value to the handler unchanged, the handler answers
by the catalogue, and the client reads the answer as it was meant. HTTP is left open but for what
it carries: the path and query of a URL one way, the status and the bytes of the body the other.
-/

namespace ExtensionCatalogue

open Server

/-- What a request for a URL asks of its host. -/
def Url.target (u : Url) : Target := ⟨none, none, Utf8.bytes u.path, u.query.map Utf8.bytes⟩

/-- The text of a path and a query is read as them, unless it is too long. -/
theorem Server.Target.parse?_bytes {path query : List UInt8} (hslash : path.head? = some (byte '/'))
    (hpath : ∀ b ∈ path, isPathByte b = true) (hquery : ∀ b ∈ query, isQueryByte b = true)
    (hlength : (Target.bytes ⟨none, none, path, some query⟩).length ≤ longest) :
    parse? (Target.bytes ⟨none, none, path, some query⟩) = some ⟨none, none, path, some query⟩ := by
  have htext : Target.bytes ⟨none, none, path, some query⟩ = path ++ byte '?' :: query := rfl
  have hno : ∀ b : UInt8, (isPathByte b = true → b ≠ byte '#' ∧ b ≠ byte '?') ∧
      (isQueryByte b = true → b ≠ byte '#') :=
    forall_byte (by decide +kernel)
  have hfragment : (path ++ byte '?' :: query).takeWhile (· ≠ byte '#') =
      path ++ byte '?' :: query := by
    refine List.takeWhile_eq_self_iff.2 fun b hb => decide_eq_true ?_
    rcases List.mem_append.1 hb with hb | hb
    · exact ((hno b).1 (hpath b hb)).1
    rcases List.mem_cons.1 hb with rfl | hb
    · decide
    · exact (hno b).2 (hquery b hb)
  have hspan : (path ++ byte '?' :: query).span (· ≠ byte '?') = (path, byte '?' :: query) := by
    have hstop : ∀ b ∈ path, decide (b ≠ byte '?') = true := fun b hb =>
      decide_eq_true ((hno b).1 (hpath b hb)).2
    rw [List.span_eq_takeWhile_dropWhile, List.takeWhile_append_of_pos hstop,
      List.dropWhile_append_of_pos hstop]
    simp
  cases path with
  | nil => cases hslash
  | cons b path =>
    obtain rfl : b = byte '/' := Option.some.inj hslash
    have hofPath : ofPath? none none (byte '/' :: path ++ byte '?' :: query) =
        some ⟨none, none, byte '/' :: path, some query⟩ := by
      unfold ofPath?
      rw [hfragment]
      dsimp only
      rw [hspan]
      simp [List.all_eq_true.2 hpath, List.all_eq_true.2 hquery]
    rw [htext] at hlength ⊢
    cases hrest : path ++ byte '?' :: query with
    | nil => exact absurd hrest (by simp)
    | cons c cs =>
      rw [List.cons_append, hrest] at hlength hofPath ⊢
      unfold parse?
      rw [if_neg (Nat.not_lt.2 hlength)]
      exact (if_pos rfl).trans hofPath

namespace Client

def request (u : Url) : Request := ⟨"GET", u.target⟩

/-- The root of an `http` server. A query or a fragment of the endpoint does not matter. -/
structure AtRoot (endpoint : Url) : Prop where
  scheme : endpoint.scheme = "http"
  path : endpoint.path = "/"

/-- Requests to the host of an endpoint are answered by the server with a catalogue. How a body is
cut into pieces, and whether its length is announced, is left open. Of the content types that the
server sends, one names UTF-8 and the other names no charset. -/
def Reaches (c : Catalog) (network : Network) (endpoint : Url) : Prop :=
  ∀ u : Url, u.scheme = endpoint.scheme → u.authority = endpoint.authority →
    ∃ d : Delivery, network u = .delivered d ∧ d.status = status c (request u) ∧
      d.charset = .utf8 ∧ d.bytes = Utf8.bytes (body c (request u)) ∧ d.interrupted = none

/-- A network that is the server, each body in one piece. -/
def loopback (c : Catalog) : Network := fun u =>
  .delivered ⟨status c (request u), none, .utf8, [Utf8.bytes (body c (request u))], none⟩

theorem reaches_loopback (c : Catalog) (endpoint : Url) : Reaches c (loopback c) endpoint :=
  fun _ _ _ => ⟨_, rfl, rfl, rfl, List.append_nil _, rfl⟩

/-! ## The request on its way -/

/-- The URL of a request to a route. -/
def routeUrl (endpoint : Url) (route : Route) (key value : String) : Url :=
  ⟨endpoint.scheme, endpoint.authority, route.path,
    some (String.ofList (Form.encodePair key value)), none⟩

variable {c : Catalog} {network : Network} {endpoint : Url} {route : Route} {key value : String}

theorem requestUrl_route (h : AtRoot endpoint) {word : String} (hword : Url.IsWord word.toList)
    (hpath : "/" ++ word = route.path) :
    requestUrl endpoint word key value = .ok (routeUrl endpoint route key value) := by
  have hrootless : endpoint.isRootless = false := by
    rw [Url.isRootless, h.path]
    exact Bool.and_eq_false_imp.2 fun _ => by decide +kernel
  have hscheme : Url.Family.ofScheme endpoint.scheme = .special := by
    rw [h.scheme]
    decide
  have hdirectory : Url.directoryPath endpoint.path = "/" := by
    rw [h.path]
    decide +kernel
  rw [requestUrl_word hscheme hrootless hword, hdirectory, hpath]
  rfl

theorem searchUrl_eq (h : AtRoot endpoint) (keyword : String) :
    searchUrl endpoint keyword = .ok (routeUrl endpoint .search "q" keyword) :=
  requestUrl_route h (Url.isWord_of_all (by decide)) (by decide)

theorem operationUrl_eq (h : AtRoot endpoint) (o : Operation) (id : String) :
    operationUrl endpoint o id = .ok (routeUrl endpoint (.operation o) "id" id) := by
  cases o with
  | install => exact requestUrl_route h (Url.isWord_of_all (by decide)) (by decide)
  | uninstall => exact requestUrl_route h (Url.isWord_of_all (by decide)) (by decide)

theorem target_routeUrl : (routeUrl endpoint route key value).target =
    ⟨none, none, Utf8.bytes route.path, some (Utf8.encode (Form.encodePair key value))⟩ := by
  unfold Url.target routeUrl
  simp only [Option.map_some, Utf8.bytes, String.toList_ofList]

theorem isFor_routeUrl : (request (routeUrl endpoint route key value)).IsFor route.path := by
  rw [Request.IsFor, request, target_routeUrl]

/-- The server decodes the pair that the client has encoded. -/
theorem pairs_routeUrl :
    Form.pairs (request (routeUrl endpoint route key value)).query = [(key, value)] := by
  rw [request, target_routeUrl]
  exact Form.pairs_encodePair key value

theorem parameter_routeUrl :
    parameter key (request (routeUrl endpoint route key value)).query = [value] := by
  simp [parameter, pairs_routeUrl]

/-- The text of the target is read as its parts, unless it is too long. -/
theorem parse?_routeUrl
    (h : (routeUrl endpoint route key value).target.bytes.length ≤ Target.longest) :
    Target.parse? (routeUrl endpoint route key value).target.bytes =
      some (routeUrl endpoint route key value).target := by
  have hquery : ∀ b ∈ Utf8.encode (Form.encodePair key value), Target.isQueryByte b = true := by
    have hplain : ∀ b : UInt8, Form.isPlain b = true → Target.isQueryByte b = true :=
      forall_byte (by decide +kernel)
    intro b hb
    rw [Form.encode_encodePair] at hb
    rcases List.mem_append.1 hb with hb | hb
    · exact hplain b (Form.isPlain_encode key b hb)
    rcases List.mem_cons.1 hb with rfl | hb
    · decide
    · exact hplain b (Form.isPlain_encode value b hb)
  have hpath : (Utf8.bytes route.path).head? = some (Target.byte '/') ∧
      (Utf8.bytes route.path).all Target.isPathByte = true := by
    match route with
    | .health | .search | .operation .install | .operation .uninstall => decide
  rw [target_routeUrl] at h ⊢
  exact Target.parse?_bytes hpath.1 (List.all_eq_true.1 hpath.2) hquery h

/-! ## The answer on its way back -/

theorem body_routeUrl {response : Response}
    (h : (route.answer c (request (routeUrl endpoint route key value)).query).response = response) :
    body c (request (routeUrl endpoint route key value)) = response.body := by
  rw [body_of_get rfl isFor_routeUrl, h]

/-- What comes back for a request to a route. -/
theorem delivered (hreach : Reaches c network endpoint) (route : Route) (key value : String)
    {response : Response}
    (h : (route.answer c (request (routeUrl endpoint route key value)).query).response = response) :
    ∃ d : Delivery, network (routeUrl endpoint route key value) = .delivered d ∧
      d.status = response.status ∧ d.charset = .utf8 ∧ d.bytes = Utf8.bytes response.body ∧
      d.interrupted = none := by
  obtain ⟨d, hd, hstatus, hcharset, hbytes, hcomplete⟩ :=
    hreach (routeUrl endpoint route key value) rfl rfl
  rw [status_of_reads (.inl rfl) isFor_routeUrl, h] at hstatus
  rw [body_routeUrl h] at hbytes
  exact ⟨d, hd, hstatus, hcharset, hbytes, hcomplete⟩

theorem answer_search (keyword : String) :
    (Route.search.answer c (request (routeUrl endpoint .search "q" keyword)).query).response =
      .ofBody 200 jsonText (Package.writeAll (c.search keyword)) := by
  have hparameter : parameter "q" (request (routeUrl endpoint .search "q" keyword)).query =
      [keyword] := parameter_routeUrl
  unfold Route.answer
  exact answerSearch_of_keyword (.inl hparameter)

/-- A package of a catalogue that can be asked for. -/
def Offers (c : Catalog) (id : String) : Prop := id ≠ "" ∧ ∃ p ∈ c.packages, p.id = id

instance (c : Catalog) (id : String) : Decidable (Offers c id) :=
  inferInstanceAs (Decidable (_ ∧ _))

theorem answer_offered (o : Operation) {id : String} (h : Offers c id) :
    ((Route.operation o).answer c
      (request (routeUrl endpoint (.operation o) "id" id)).query).response =
      .ofBody 200 jsonText (OperationResponse.ok id).write := by
  have hparameter : parameter "id" (request (routeUrl endpoint (.operation o) "id" id)).query =
      [id] := parameter_routeUrl
  unfold Route.answer
  exact answerOperation_of_found hparameter h.1 h.2

theorem answer_not_offered (o : Operation) {id : String} (h : ¬ Offers c id) :
    ((Route.operation o).answer c
      (request (routeUrl endpoint (.operation o) "id" id)).query).response = .notFound := by
  have hparameter : parameter "id" (request (routeUrl endpoint (.operation o) "id" id)).query =
      [id] := parameter_routeUrl
  unfold Route.answer
  refine answerOperation_of_not_found ?_
  rintro ⟨id', hid', hoffered⟩
  rw [hparameter] at hid'
  cases hid'
  exact h hoffered

theorem message_notFound {d : Delivery} (hcharset : d.charset = .utf8)
    (hbytes : d.bytes = Utf8.bytes "Not Found") (hcomplete : d.interrupted = none) :
    d.message = "Not Found" := by
  have htext : Text.trim (Charset.utf8.text (Utf8.bytes "Not Found")) = "Not Found" := by
    decide +kernel
  have hwhole : d.isComplete = true := by
    rw [Delivery.isComplete, hcomplete]
    rfl
  rw [Delivery.message, if_pos hwhole, hcharset, hbytes]
  exact htext

/-- A search reads what the server has written of the packages found. -/
theorem search_eq (h : AtRoot endpoint) (hreach : Reaches c network endpoint) (keyword : String) :
    search network endpoint keyword =
      Listing.read (Utf8.bytes (Package.writeAll (c.search keyword))) := by
  obtain ⟨d, hd, hstatus, -, hbytes, hcomplete⟩ :=
    delivered hreach .search "q" keyword (answer_search keyword)
  have hsuccess : d.isSuccess = true := by
    rw [Delivery.isSuccess, hstatus]
    rfl
  have hresult : search network endpoint keyword =
      searchResult (routeUrl endpoint .search "q" keyword).text (.delivered d) := by
    rw [search, searchUrl_eq h, ← hd]
    rfl
  have hread : searchResult (routeUrl endpoint .search "q" keyword).text (.delivered d) =
      Listing.read d.bytes := by
    rw [searchResult, Reply.success, if_pos hsuccess]
    simp [bind, Except.bind, hcomplete]
  rw [hresult, hread, hbytes]
  rfl

/-- Installs and uninstalls have the same result. -/
theorem operate_delivered (h : AtRoot endpoint) (o : Operation) (id : String) {d : Delivery}
    (hd : network (routeUrl endpoint (.operation o) "id" id) = .delivered d)
    (hcomplete : d.interrupted = none) :
    (operate network endpoint o id).2 =
      if d.isSuccess then checkOperation d.bytes else .error (.rejected d.status d.message) := by
  rw [operate_answered ⟨_, operationUrl_eq h o id, hd⟩, Delivery.outcome, hcomplete]

/-! ## Agreement -/

/-- **Client and server agree on searches.** The request names the keyword, and what comes back is
the packages of the catalogue that match it, less those with an empty id. -/
theorem search_agrees {ps : List Package} (hroot : AtRoot endpoint)
    (hreach : Reaches (Catalog.ofPackages ps).1 network endpoint)
    (hratings : ∀ p ∈ (Catalog.ofPackages ps).1.packages, Package.RatingReadsBack p.rating)
    (keyword : String) :
    ∃ url, searchUrl endpoint keyword = .ok url ∧
      (url.target.bytes.length ≤ Target.longest →
        Target.parse? url.target.bytes = some url.target) ∧
      Route.ofPath? url.target.path = some .search ∧
      Form.pairs (request url).query = [("q", keyword)] ∧
      ∃ listing, Listing.read (Utf8.bytes (body (Catalog.ofPackages ps).1 (request url))) =
          .ok listing ∧
        search network endpoint keyword = .ok listing ∧
        listing.packages = ((Catalog.ofPackages ps).1.search keyword).filter (!·.id.isEmpty) := by
  generalize (Catalog.ofPackages ps).1 = c at *
  have hfound : ∀ p ∈ c.search keyword, Package.RatingReadsBack p.rating := fun p hp =>
    hratings p (List.mem_of_mem_filter hp)
  obtain ⟨listing, hread, hpackages⟩ := Listing.read_writeAll hfound
  refine ⟨routeUrl endpoint .search "q" keyword, searchUrl_eq hroot keyword, parse?_routeUrl,
    ofPath?_of_isFor isFor_routeUrl, pairs_routeUrl, listing, ?_, ?_, hpackages⟩
  · rw [body_routeUrl (answer_search keyword)]
    exact hread
  · rw [search_eq hroot hreach, hread]

def localRoot : Url := ⟨"http", some ⟨"", none, .name "localhost", some 8765⟩, "/", none, none⟩

theorem atRoot_localRoot : AtRoot localRoot := ⟨rfl, rfl⟩

/-- A package with an id that is escaped in a query and in JSON. -/
def escapedPackage : Package :=
  ⟨"a&b=\"c\"", "First", "1.0", "", "", ["x"], none, ⟨0x4012CCCCCCCCCCCD⟩, 7, true⟩

def namelessPackage : Package :=
  ⟨"", "Second", "", "", "", [], some "http://localhost/i.png", .zero, 0, false⟩

theorem search_agrees_escaped :
    let c := (Catalog.ofPackages [escapedPackage, namelessPackage]).1
    AtRoot localRoot ∧ Reaches c (loopback c) localRoot ∧
      (∀ p ∈ c.packages, Package.RatingReadsBack p.rating) ∧
      ∃ url listing, searchUrl localRoot "50% + \"é\"" = .ok url ∧
        Form.pairs (request url).query = [("q", "50% + \"é\"")] ∧
        search (loopback c) localRoot "50% + \"é\"" = .ok listing ∧
        listing.packages = (c.search "50% + \"é\"").filter (!·.id.isEmpty) := by
  intro c
  have hratings : ∀ p ∈ c.packages, Package.RatingReadsBack p.rating := by decide +kernel
  obtain ⟨url, hurl, -, -, hpairs, listing, -, hsearch, hpackages⟩ :=
    search_agrees atRoot_localRoot (reaches_loopback c localRoot) hratings "50% + \"é\""
  exact ⟨atRoot_localRoot, reaches_loopback c localRoot, hratings, url, listing, hurl, hpairs,
    hsearch, hpackages⟩

/-- A package that is offered is installed and uninstalled, and any other is not found. -/
theorem operate_cases (hroot : AtRoot endpoint) (hreach : Reaches c network endpoint)
    (o : Operation) (id : String) :
    (Offers c id → (operate network endpoint o id).2 = .ok ()) ∧
      (¬ Offers c id → (operate network endpoint o id).2 = .error (.rejected 404 "Not Found")) := by
  constructor
  · intro h
    obtain ⟨d, hd, hstatus, -, hbytes, hcomplete⟩ :=
      delivered hreach (.operation o) "id" id (answer_offered o h)
    have hsuccess : d.isSuccess = true := by
      rw [Delivery.isSuccess, hstatus]
      rfl
    have hchecked : checkOperation d.bytes = .ok () := by
      have hread : OperationResponse.read? d.bytes = some (.ok id) := by
        rw [hbytes]
        exact OperationResponse.read?_write (.ok id)
      rw [checkOperation, hread]
      rfl
    rw [operate_delivered hroot o id hd hcomplete, if_pos hsuccess, hchecked]
  · intro h
    obtain ⟨d, hd, hstatus, hcharset, hbytes, hcomplete⟩ :=
      delivered hreach (.operation o) "id" id (answer_not_offered o h)
    have hstatus : d.status = 404 := hstatus
    have hsuccess : ¬ d.isSuccess = true := by
      rw [Delivery.isSuccess, hstatus]
      decide
    rw [operate_delivered hroot o id hd hcomplete, if_neg hsuccess, hstatus,
      message_notFound hcharset hbytes hcomplete]

/-- **Client and server agree on operations.** Exactly the packages of the catalogue with an id
that is not empty are installed and uninstalled. So every package that a search lists is, and the
answer names it. -/
theorem operations_agree (hroot : AtRoot endpoint) (hreach : Reaches c network endpoint) :
    (∀ (o : Operation) (p : Package),
      ((operate network endpoint o p.id).2 = .ok () ↔ Offers c p.id) ∧
      (¬ Offers c p.id →
        (operate network endpoint o p.id).2 = .error (.rejected 404 "Not Found"))) ∧
    ∀ (keyword : String) (listing : Listing), search network endpoint keyword = .ok listing →
      ∀ p ∈ listing.packages, ∀ o : Operation,
        (operate network endpoint o p.id).2 = .ok () ∧
        ∃ url, operationUrl endpoint o p.id = .ok url ∧
          OperationResponse.read? (Utf8.bytes (body c (request url))) = some (.ok p.id) := by
  constructor
  · intro o p
    obtain ⟨hoffered, hother⟩ := operate_cases hroot hreach o p.id
    refine ⟨⟨fun hok => ?_, hoffered⟩, hother⟩
    by_contra h
    rw [hother h] at hok
    cases hok
  · intro keyword listing h p hp o
    rw [search_eq hroot hreach] at h
    obtain ⟨hid, q, hq, hqid⟩ := Listing.id_of_mem h hp
    have hoffered : Offers c p.id := ⟨hid, q, List.mem_of_mem_filter hq, hqid⟩
    refine ⟨(operate_cases hroot hreach o p.id).1 hoffered, _, operationUrl_eq hroot o p.id, ?_⟩
    rw [body_routeUrl (answer_offered o hoffered)]
    exact OperationResponse.read?_write (.ok p.id)

theorem operations_agree_escaped :
    let c := (Catalog.ofPackages [escapedPackage, namelessPackage]).1
    AtRoot localRoot ∧ Reaches c (loopback c) localRoot ∧
      (operate (loopback c) localRoot .install escapedPackage.id).2 = .ok () ∧
      (operate (loopback c) localRoot .uninstall "a&b").2 = .error (.rejected 404 "Not Found") ∧
      (operate (loopback c) localRoot .install namelessPackage.id).2 =
        .error (.rejected 404 "Not Found") := by
  intro c
  obtain ⟨hoperations, -⟩ := operations_agree atRoot_localRoot (reaches_loopback c localRoot)
  refine ⟨atRoot_localRoot, reaches_loopback c localRoot, ?_, ?_, ?_⟩
  · exact ((hoperations .install escapedPackage).1).2 (by decide)
  · exact (hoperations .uninstall { escapedPackage with id := "a&b" }).2 (by decide)
  · exact (hoperations .install namelessPackage).2 (by decide)

end Client

end ExtensionCatalogue
