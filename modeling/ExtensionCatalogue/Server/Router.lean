import ExtensionCatalogue.Catalog.Basic
import ExtensionCatalogue.Operation.Response
import ExtensionCatalogue.Server.Target
import ExtensionCatalogue.Text.Form

/-!
# The server

The server answers searches, installs and uninstalls on a fixed catalogue. Its routes answer `GET`
and `HEAD`; a query that cannot be understood, an unknown package and an unknown path are all
answered by the same plain 404. Any origin may ask, so `OPTIONS` is answered on every path.
-/

namespace ExtensionCatalogue.Server

structure Request where
  method : String
  target : Target
  deriving DecidableEq, Repr

structure Response where
  status : Nat
  headers : List (String × String)
  body : String
  deriving DecidableEq, Repr

/-- A response and what was noticed on the way. -/
structure Answer where
  response : Response
  notices : List Notice
  deriving DecidableEq, Repr

inductive Route where
  | health
  | search
  | operation (o : Operation)
  deriving DecidableEq, Repr

/-- The route of a path. Paths match literally. -/
def Route.ofPath? (path : List UInt8) : Option Route :=
  if path = Utf8.bytes "/health" then some .health
  else if path = Utf8.bytes "/extensions" then some .search
  else if path = Utf8.bytes "/install" then some (.operation .install)
  else if path = Utf8.bytes "/uninstall" then some (.operation .uninstall)
  else none

def plainText : String := "text/plain; charset=utf-8"

def jsonText : String := "application/json"

/-- A response with a body of the given type. -/
def Response.ofBody (status : Nat) (type body : String) : Response :=
  ⟨status, [("content-type", type), ("content-length", toString (Utf8.bytes body).length)], body⟩

/-- A response without a body. -/
def Response.ofNothing (status : Nat) (headers : List (String × String)) : Response :=
  ⟨status, headers ++ [("content-length", "0")], ""⟩

def Response.notFound : Response := .ofBody 404 plainText "Not Found"

/-- The headers of every response, which let any origin read it. -/
def Response.shared (r : Response) : Response :=
  { r with
    headers := r.headers ++
      [("access-control-allow-origin", "*"),
        ("vary", "origin, access-control-request-method, access-control-request-headers")] }

/-- The values of a key in a query. -/
def parameter (key : String) (query : List UInt8) : List String :=
  ((Form.pairs query).filter (·.1 = key)).map (·.2)

/-- The answer to a search. A missing keyword is empty; a repeated one is malformed. -/
def answerSearch (c : Catalog) (query : List UInt8) : Answer :=
  match parameter "q" query with
  | _ :: _ :: _ => ⟨.notFound, [.malformedSearch]⟩
  | values =>
    let keyword := values.head?.getD ""
    let found := c.search keyword
    ⟨.ofBody 200 jsonText (Package.writeAll found), [.searched keyword found.length]⟩

/-- The answer to an operation, which succeeds for exactly the packages of the catalogue. -/
def answerOperation (c : Catalog) (o : Operation) (query : List UInt8) : Answer :=
  match parameter "id" query with
  | _ :: _ :: _ => ⟨.notFound, [.malformedOperation]⟩
  | values =>
    let id := values.head?.getD ""
    if id.isEmpty then ⟨.notFound, [.operationWithoutId]⟩
    else
      match c.find? id with
      | none => ⟨.notFound, [.unknownExtension id]⟩
      | some p =>
        ⟨.ofBody 200 jsonText (OperationResponse.ok p.id).write, [.answered o p.id]⟩

/-- The answer of a route to `GET`. -/
def Route.answer (c : Catalog) (query : List UInt8) : Route → Answer
  | health => ⟨.ofBody 200 plainText "OK", []⟩
  | search => answerSearch c query
  | operation o => answerOperation c o query

/-- The methods of the routes. -/
def allowed : List (String × String) := [("allow", "GET,HEAD")]

/-- The answer to a request before the shared headers. -/
def respond (c : Catalog) (r : Request) : Answer :=
  let route? := Route.ofPath? r.target.path
  if r.method = "OPTIONS" then
    ⟨.ofNothing 200
      ((if route?.isSome then allowed else []) ++
        [("access-control-allow-methods", "*"), ("access-control-allow-headers", "*")]), []⟩
  else
    match route? with
    | none => ⟨.notFound, [.unrouted r.target.text]⟩
    | some route =>
      let query := r.target.query.getD []
      if r.method = "GET" then route.answer c query
      else if r.method = "HEAD" then
        let a := route.answer c query
        { a with response := { a.response with body := "" } }
      else ⟨.ofNothing 405 allowed, []⟩

/-- The answer of the server with a catalogue to a request. -/
def answer (c : Catalog) (r : Request) : Answer :=
  let a := respond c r
  { a with response := a.response.shared }

/-! ## Requests that can be made -/

/-- The characters of methods and header names. -/
def isTokenChar (c : Char) : Bool :=
  c.isAlphanum ||
    c ∈ ['!', '#', '$', '%', '&', '\x27', '*', '+', '-', '.', '^', '_', '\x60', '|', '~']

def isToken (s : String) : Bool := !s.isEmpty && s.toList.all isTokenChar

/-- Whether a header can be sent: control characters other than the tab cannot. -/
def isHeader (name value : String) : Bool :=
  isToken name && (Utf8.bytes value).all fun b => b == 9 || (0x20 ≤ b && b ≠ 0x7F)

/-- The request of a method, a target and headers, if it can be made. -/
def Request.make? (method target : String) (headers : List (String × String)) : Option Request :=
  if isToken method && headers.all (fun (name, value) => isHeader name value) then
    (Target.parse? (Utf8.bytes target)).map (⟨method, ·⟩)
  else none

end ExtensionCatalogue.Server
