import ExtensionCatalogue.Proofs.Package.Array
import ExtensionCatalogue.Server.Router

/-!
# The decision table of the server

What is answered to a request depends on its method, its path and, on three of the routes, on what
its query gives to one key. The table says for every request which status it gets, and where the
request reads, what the body is and what it is read as. Whatever the bytes of a query, they are
pairs of texts, so no query has an answer outside the table.
-/

namespace ExtensionCatalogue.Server

/-! ## What a request says -/

namespace Request

/-- The query, empty if there is none. -/
def query (r : Request) : List UInt8 := r.target.query.getD []

def IsFor (r : Request) (path : String) : Prop := r.target.path = Utf8.bytes path

def IsRouted (r : Request) : Prop :=
  r.IsFor "/health" ∨ r.IsFor "/extensions" ∨ r.IsFor "/install" ∨ r.IsFor "/uninstall"

/-- `HEAD` reads as `GET` does. -/
def Reads (r : Request) : Prop := r.method = "GET" ∨ r.method = "HEAD"

/-- How often the query names a key. -/
def occurrences (r : Request) (key : String) : Nat := ((Form.pairs r.query).map (·.1)).count key

/-- The query names a key once and gives it this value. -/
def Gives (r : Request) (key value : String) : Prop :=
  r.occurrences key = 1 ∧ (key, value) ∈ Form.pairs r.query

/-- The keyword of a search: the value of `q`, or empty without one. -/
def GivesKeyword (r : Request) (keyword : String) : Prop :=
  r.Gives "q" keyword ∨ r.occurrences "q" = 0 ∧ keyword = ""

/-- The query names a package of the catalogue. -/
def GivesPackage (r : Request) (c : Catalog) (id : String) : Prop :=
  r.Gives "id" id ∧ id ≠ "" ∧ ∃ p ∈ c.packages, p.id = id

end Request

def status (c : Catalog) (r : Request) : Nat := (answer c r).response.status

def body (c : Catalog) (r : Request) : String := (answer c r).response.body

/-- The text of the acknowledgement: `ok`, and the id as a string literal. -/
def okText (id : String) : String :=
  "\x7b\"status\":\"ok\",\"id\":" ++ String.ofList (Json.quote id) ++ "\x7d"

/-- The rows of the table. -/
structure DecisionTable (c : Catalog) : Prop where
  /-- `OPTIONS` is answered on every path. -/
  options : ∀ r : Request, r.method = "OPTIONS" → status c r = 200
  unrouted : ∀ r : Request, r.method ≠ "OPTIONS" → ¬ r.IsRouted →
    status c r = 404 ∧ body c r = "Not Found"
  otherMethod : ∀ r : Request, r.method ≠ "OPTIONS" → r.IsRouted → ¬ r.Reads → status c r = 405
  /-- No query leads to any other status. -/
  either : ∀ r : Request, r.Reads → r.IsRouted → status c r = 200 ∨ status c r = 404
  health : ∀ r : Request, r.Reads → r.IsFor "/health" → status c r = 200
  search : ∀ r : Request, r.Reads → r.IsFor "/extensions" →
    (status c r = 404 ↔ 1 < r.occurrences "q")
  /-- A search that is not malformed has a keyword, and the packages for it are the answer. -/
  found : ∀ r : Request, r.method = "GET" → r.IsFor "/extensions" → ¬ 1 < r.occurrences "q" →
    (∃ keyword, r.GivesKeyword keyword) ∧
    ∀ keyword, r.GivesKeyword keyword → body c r = Package.writeAll (c.search keyword) ∧
      Package.IsArrayOf (c.search keyword) (body c r)
  operation : ∀ r : Request, r.Reads → r.IsFor "/install" ∨ r.IsFor "/uninstall" →
    (status c r = 200 ↔ ∃ id, r.GivesPackage c id)
  acknowledged : ∀ r : Request, r.method = "GET" → r.IsFor "/install" ∨ r.IsFor "/uninstall" →
    ∀ id, r.GivesPackage c id → body c r = okText id ∧
      Json.Value.read? (Utf8.bytes (body c r)) =
        some (.object [("status", .text "ok"), ("id", .text id)])
  refused : ∀ r : Request, r.method = "GET" → r.IsRouted → status c r = 404 →
    body c r = "Not Found"
  alike : ∀ r r' : Request, r.IsFor "/install" → r'.IsFor "/uninstall" → r.method = r'.method →
    r.query = r'.query → (answer c r).response = (answer c r').response
  head : ∀ r : Request, r.method = "HEAD" → r.IsRouted →
    status c r = status c { r with method := "GET" } ∧ body c r = ""

/-! ## Parameters -/

variable {c : Catalog} {r : Request} {key value : String} {q : List UInt8}

theorem length_parameter (key : String) (q : List UInt8) :
    (parameter key q).length = ((Form.pairs q).map (·.1)).count key := by
  rw [parameter, List.length_map, ← List.countP_eq_length_filter, List.count, List.countP_map]
  refine List.countP_congr fun pair _ => ?_
  simp

theorem mem_parameter : value ∈ parameter key q ↔ (key, value) ∈ Form.pairs q := by
  simp [parameter]

/-- A key that is given a value has this value alone. -/
theorem Request.gives_iff : r.Gives key value ↔ parameter key r.query = [value] := by
  rw [Gives, occurrences, ← length_parameter, ← mem_parameter]
  constructor
  · rintro ⟨hone, hmem⟩
    obtain ⟨v, hv⟩ := List.length_eq_one_iff.1 hone
    rw [hv] at hmem ⊢
    rw [List.mem_singleton.1 hmem]
  · intro h
    rw [h]
    exact ⟨rfl, List.mem_singleton_self value⟩

theorem Request.givesKeyword_iff {keyword : String} :
    r.GivesKeyword keyword ↔
      parameter "q" r.query = [keyword] ∨ parameter "q" r.query = [] ∧ keyword = "" := by
  rw [GivesKeyword, gives_iff, occurrences, ← length_parameter, List.length_eq_zero_iff]

/-- A key that is not repeated has one value or none. -/
theorem Request.exists_keyword (h : ¬ 1 < r.occurrences "q") :
    ∃ keyword, r.GivesKeyword keyword := by
  rw [occurrences, ← length_parameter] at h
  simp only [givesKeyword_iff]
  match hp : parameter "q" r.query with
  | [] => exact ⟨"", .inr ⟨rfl, rfl⟩⟩
  | [v] => exact ⟨v, .inl rfl⟩
  | _ :: _ :: _ =>
    rw [hp] at h
    simp at h

/-! ## Answers of the routes -/

theorem answerSearch_of_repeated (h : 1 < (parameter "q" q).length) :
    (answerSearch c q).response = .notFound := by
  unfold answerSearch
  split
  · rfl
  · rename_i hnot
    match hp : parameter "q" q with
    | [] => simp [hp] at h
    | [v] => simp [hp] at h
    | v :: w :: vs => exact absurd hp (hnot v w vs)

theorem answerSearch_of_keyword {keyword : String}
    (h : parameter "q" q = [keyword] ∨ parameter "q" q = [] ∧ keyword = "") :
    (answerSearch c q).response =
      .ofBody 200 jsonText (Package.writeAll (c.search keyword)) := by
  unfold answerSearch
  rcases h with h | ⟨h, rfl⟩
  · rw [h]
    rfl
  · rw [h]
    rfl

theorem find?_isSome_iff {id : String} : (c.find? id).isSome ↔ ∃ p ∈ c.packages, p.id = id := by
  simp [Catalog.find?]

theorem id_of_find? {id : String} {p : Package} (h : c.find? id = some p) : p.id = id := by
  simpa using List.find?_some h

theorem answerOperation_of_found {o : Operation} {id : String} (h : parameter "id" q = [id])
    (hid : id ≠ "") (hp : ∃ p ∈ c.packages, p.id = id) :
    (answerOperation c o q).response =
      .ofBody 200 jsonText (OperationResponse.ok id).write := by
  obtain ⟨p, hfind⟩ := Option.isSome_iff_exists.1 (find?_isSome_iff.2 hp)
  have hempty : id.isEmpty = false := by simpa using hid
  unfold answerOperation
  rw [h]
  simp only [List.head?_cons, Option.getD_some, hempty, Bool.false_eq_true, ↓reduceIte, hfind]
  rw [id_of_find? hfind]

theorem answerOperation_of_not_found {o : Operation}
    (h : ¬ ∃ id, parameter "id" q = [id] ∧ id ≠ "" ∧ ∃ p ∈ c.packages, p.id = id) :
    (answerOperation c o q).response = .notFound := by
  unfold answerOperation
  split
  · rfl
  · rename_i hnot
    match hp : parameter "id" q with
    | [] => rfl
    | v :: w :: vs => exact absurd hp (hnot v w vs)
    | [id] =>
      by_cases hid : id = ""
      · subst hid
        rfl
      · have hempty : id.isEmpty = false := by simpa using hid
        simp only [List.head?_cons, Option.getD_some, hempty, Bool.false_eq_true, ↓reduceIte]
        cases hfind : c.find? id with
        | none => rfl
        | some p =>
          have hmem : ∃ p ∈ c.packages, p.id = id := find?_isSome_iff.1 (by simp [hfind])
          exact absurd ⟨id, hp, hid, hmem⟩ h

theorem write_ok (id : String) : (OperationResponse.ok id).write = okText id := by
  let front := '\x7b' :: (Json.quote "status" ++ ':' :: (Json.quote OperationResponse.okStatus ++
    ',' :: (Json.quote "id" ++ [':'])))
  have hfront : String.ofList front = "\x7b\"status\":\"ok\",\"id\":" := by decide +kernel
  calc (OperationResponse.ok id).write
      = String.ofList (front ++ Json.quote id ++ ['\x7d']) := by
        simp [front, OperationResponse.write, OperationResponse.ok, OperationResponse.toValue,
          Json.Value.write, Json.Value.chars, Json.moreMembers]
    _ = String.ofList front ++ String.ofList (Json.quote id) ++ String.ofList ['\x7d'] := by
        rw [String.ofList_append, String.ofList_append]
    _ = okText id := by
        rw [hfront]
        rfl

theorem read?_okText (id : String) : Json.Value.read? (Utf8.bytes (okText id)) =
    some (.object [("status", .text "ok"), ("id", .text id)]) := by
  have hwrite : (OperationResponse.ok id).write =
      (Json.Value.object [("status", .text "ok"), ("id", .text id)]).write := rfl
  rw [← write_ok, hwrite]
  exact Json.Value.Readable.read? (.object (by simp [Json.Value.Readable.text]))

/-! ## Routes -/

/-- The path of a route. -/
def Route.path : Route → String
  | health => "/health"
  | search => "/extensions"
  | operation .install => "/install"
  | operation .uninstall => "/uninstall"

theorem Route.ofPath?_path (route : Route) : Route.ofPath? (Utf8.bytes route.path) = some route := by
  match route with
  | health | search | operation .install | operation .uninstall => decide

theorem Request.isRouted_iff : r.IsRouted ↔ ∃ route : Route, r.IsFor route.path := by
  constructor
  · rintro (h | h | h | h)
    · exact ⟨.health, h⟩
    · exact ⟨.search, h⟩
    · exact ⟨.operation .install, h⟩
    · exact ⟨.operation .uninstall, h⟩
  · rintro ⟨route, h⟩
    match route, h with
    | .health, h => exact .inl h
    | .search, h => exact .inr (.inl h)
    | .operation .install, h => exact .inr (.inr (.inl h))
    | .operation .uninstall, h => exact .inr (.inr (.inr h))

theorem ofPath?_of_isFor {route : Route} (h : r.IsFor route.path) :
    Route.ofPath? r.target.path = some route := by
  rw [Request.IsFor] at h
  rw [h, Route.ofPath?_path]

theorem ofPath?_of_not_isRouted (h : ¬ r.IsRouted) : Route.ofPath? r.target.path = none := by
  simp only [Request.IsRouted, Request.IsFor, not_or] at h
  obtain ⟨hhealth, hsearch, hinstall, huninstall⟩ := h
  rw [Route.ofPath?, if_neg hhealth, if_neg hsearch, if_neg hinstall, if_neg huninstall]

/-- The response to a request that reads a route, `HEAD` without its body. -/
theorem response_of_reads {route : Route} (hr : r.Reads) (hp : r.IsFor route.path) :
    (answer c r).response =
      if r.method = "GET" then (route.answer c r.query).response.shared
      else { (route.answer c r.query).response with body := "" }.shared := by
  have hroute := ofPath?_of_isFor hp
  unfold answer respond
  rcases hr with hm | hm
  · simp [hm, hroute, Request.query]
  · simp [hm, hroute, Request.query]

theorem status_of_reads {route : Route} (hr : r.Reads) (hp : r.IsFor route.path) :
    status c r = (route.answer c r.query).response.status := by
  rw [status, response_of_reads hr hp]
  split <;> rfl

theorem body_of_get {route : Route} (hm : r.method = "GET") (hp : r.IsFor route.path) :
    body c r = (route.answer c r.query).response.body := by
  rw [body, response_of_reads (.inl hm) hp, if_pos hm]
  rfl

theorem body_of_head {route : Route} (hm : r.method = "HEAD") (hp : r.IsFor route.path) :
    body c r = "" := by
  have hget : r.method ≠ "GET" := by simp [hm]
  rw [body, response_of_reads (.inr hm) hp, if_neg hget]
  rfl

/-! ## The rows -/

theorem response_of_options (h : r.method = "OPTIONS") : status c r = 200 := by
  simp [status, answer, respond, h, Response.shared, Response.ofNothing]

theorem response_of_unrouted (hm : r.method ≠ "OPTIONS") (hp : ¬ r.IsRouted) :
    status c r = 404 ∧ body c r = "Not Found" := by
  have hroute := ofPath?_of_not_isRouted hp
  simp [status, body, answer, respond, hm, hroute, Response.shared, Response.notFound,
    Response.ofBody]

theorem status_of_other (hm : r.method ≠ "OPTIONS") (hp : r.IsRouted) (hr : ¬ r.Reads) :
    status c r = 405 := by
  obtain ⟨route, hp⟩ := Request.isRouted_iff.1 hp
  have hroute := ofPath?_of_isFor hp
  have hget : r.method ≠ "GET" := fun h => hr (.inl h)
  have hhead : r.method ≠ "HEAD" := fun h => hr (.inr h)
  simp [status, answer, respond, hm, hroute, hget, hhead, Response.shared, Response.ofNothing]

theorem operation_of_package (o : Operation) {id : String} (h : r.GivesPackage c id) :
    (answerOperation c o r.query).response = .ofBody 200 jsonText (okText id) := by
  obtain ⟨hgives, hid, hp⟩ := h
  rw [answerOperation_of_found (Request.gives_iff.1 hgives) hid hp, write_ok]

theorem operation_of_no_package (o : Operation) (h : ¬ ∃ id, r.GivesPackage c id) :
    (answerOperation c o r.query).response = .notFound := by
  refine answerOperation_of_not_found ?_
  rintro ⟨id, hq, hid, hp⟩
  exact h ⟨id, Request.gives_iff.2 hq, hid, hp⟩

/-- What the response of a route to a read can be. -/
theorem route_cases (c : Catalog) (q : List UInt8) (route : Route) :
    (route.answer c q).response.status = 200 ∨ (route.answer c q).response = .notFound := by
  cases route with
  | health => exact .inl rfl
  | search =>
    show (answerSearch c q).response.status = 200 ∨ (answerSearch c q).response = .notFound
    unfold answerSearch
    split
    · exact .inr rfl
    · exact .inl rfl
  | operation o =>
    show (answerOperation c o q).response.status = 200 ∨ (answerOperation c o q).response = .notFound
    unfold answerOperation
    split
    · exact .inr rfl
    · dsimp only
      split
      · exact .inr rfl
      · split
        · exact .inr rfl
        · exact .inl rfl

theorem Request.isFor_operation (h : r.IsFor "/install" ∨ r.IsFor "/uninstall") :
    ∃ o, r.IsFor (Route.operation o).path := by
  rcases h with h | h
  · exact ⟨.install, h⟩
  · exact ⟨.uninstall, h⟩

theorem status_of_search (hr : r.Reads) (hp : r.IsFor "/extensions") :
    status c r = 404 ↔ 1 < r.occurrences "q" := by
  have hsearch : r.IsFor Route.search.path := hp
  have hstatus : status c r = (answerSearch c r.query).response.status :=
    status_of_reads hr hsearch
  rw [hstatus]
  by_cases h : 1 < r.occurrences "q"
  · have hlen : 1 < (parameter "q" r.query).length := length_parameter "q" r.query ▸ h
    rw [answerSearch_of_repeated hlen]
    exact iff_of_true rfl h
  · obtain ⟨keyword, hk⟩ := Request.exists_keyword h
    rw [answerSearch_of_keyword (Request.givesKeyword_iff.1 hk)]
    refine iff_of_false ?_ h
    simp [Response.ofBody]

theorem status_of_operation (hr : r.Reads) (hp : r.IsFor "/install" ∨ r.IsFor "/uninstall") :
    status c r = 200 ↔ ∃ id, r.GivesPackage c id := by
  obtain ⟨o, hp⟩ := Request.isFor_operation hp
  have hstatus : status c r = (answerOperation c o r.query).response.status :=
    status_of_reads hr hp
  rw [hstatus]
  by_cases h : ∃ id, r.GivesPackage c id
  · obtain ⟨id, hid⟩ := h
    rw [operation_of_package o hid]
    exact iff_of_true rfl ⟨id, hid⟩
  · rw [operation_of_no_package o h]
    refine iff_of_false ?_ h
    simp [Response.notFound, Response.ofBody]

theorem response_alike {r r' : Request} (hp : r.IsFor "/install") (hp' : r'.IsFor "/uninstall")
    (hm : r.method = r'.method) (hq : r.query = r'.query) :
    (answer c r).response = (answer c r').response := by
  have hroute : Route.ofPath? r.target.path = some (.operation .install) := ofPath?_of_isFor hp
  have hroute' : Route.ofPath? r'.target.path = some (.operation .uninstall) := ofPath?_of_isFor hp'
  have hsame : (answerOperation c .install r.query).response =
      (answerOperation c .uninstall r.query).response := by
    by_cases h : ∃ id, r.GivesPackage c id
    · obtain ⟨id, hid⟩ := h
      rw [operation_of_package .install hid, operation_of_package .uninstall hid]
    · rw [operation_of_no_package .install h, operation_of_no_package .uninstall h]
  unfold Request.query at hq hsame
  unfold answer respond
  simp only [hroute, hroute', ← hm, ← hq, Option.isSome_some]
  split
  · rfl
  · split
    · show (answerOperation _ _ _).response.shared = (answerOperation _ _ _).response.shared
      rw [hsame]
    · split
      · show ({ (answerOperation _ _ _).response with body := "" } : Response).shared =
          ({ (answerOperation _ _ _).response with body := "" } : Response).shared
        rw [hsame]
      · rfl

/-- **The decision table.** Every request to the server with a catalogue is answered by it. -/
theorem decisionTable (c : Catalog) : DecisionTable c where
  options r hm := response_of_options hm
  unrouted r hm hp := response_of_unrouted hm hp
  otherMethod r hm hp hr := status_of_other hm hp hr
  either r hr hp := by
    obtain ⟨route, hp⟩ := Request.isRouted_iff.1 hp
    rw [status_of_reads hr hp]
    rcases route_cases c r.query route with h | h
    · exact .inl h
    · rw [h]
      exact .inr rfl
  health r hr hp := by
    have hhealth : r.IsFor Route.health.path := hp
    exact status_of_reads hr hhealth
  search r hr hp := status_of_search hr hp
  found r hm hp hq := by
    refine ⟨Request.exists_keyword hq, ?_⟩
    intro keyword hk
    have hsearch : r.IsFor Route.search.path := hp
    have hbody : body c r = Package.writeAll (c.search keyword) := by
      have hanswer : body c r = (answerSearch c r.query).response.body := body_of_get hm hsearch
      rw [hanswer, answerSearch_of_keyword (Request.givesKeyword_iff.1 hk)]
      rfl
    refine ⟨hbody, ?_⟩
    rw [hbody]
    exact Package.isArrayOf_writeAll _
  operation r hr hp := status_of_operation hr hp
  acknowledged r hm hp id hid := by
    obtain ⟨o, hp⟩ := Request.isFor_operation hp
    have hbody : body c r = okText id := by
      have hanswer : body c r = (answerOperation c o r.query).response.body := body_of_get hm hp
      rw [hanswer, operation_of_package o hid]
      rfl
    refine ⟨hbody, ?_⟩
    rw [hbody, read?_okText]
  refused r hm hp hs := by
    obtain ⟨route, hp⟩ := Request.isRouted_iff.1 hp
    rw [status_of_reads (.inl hm) hp] at hs
    rw [body_of_get hm hp]
    rcases route_cases c r.query route with h | h
    · rw [h] at hs
      cases hs
    · rw [h]
      rfl
  alike r r' hp hp' hm hq := response_alike hp hp' hm hq
  head r hm hp := by
    obtain ⟨route, hp⟩ := Request.isRouted_iff.1 hp
    refine ⟨?_, body_of_head hm hp⟩
    have hget : Request.IsFor { r with method := "GET" } route.path := hp
    rw [status_of_reads (.inr hm) hp, status_of_reads (.inl rfl) hget]
    rfl

end ExtensionCatalogue.Server
