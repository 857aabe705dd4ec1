import ExtensionCatalogue.Client.Download
import ExtensionCatalogue.Client.Listing
import ExtensionCatalogue.Client.Reply
import ExtensionCatalogue.Client.RequestUrl
import ExtensionCatalogue.Operation.Response

/-!
# The client

A search, an install or an uninstall is one request to the catalogue. Each is given as a function
of the reply to its request, so that it does not matter how the reply came. An install takes the
body piece by piece and reports how much of it has arrived; the others take it as a whole.
-/

namespace ExtensionCatalogue.Client

def searchUrl (endpoint : Url) (keyword : String) : Except Failure Url :=
  requestUrl endpoint "extensions" "q" keyword

def operationUrl (endpoint : Url) (o : Operation) (id : String) : Except Failure Url :=
  requestUrl endpoint o.name "id" id

/-- The packages in the reply to a search. -/
def searchResult (url : String) (reply : Reply) : Except Failure Listing := do
  let d ← reply.success url
  match d.interrupted with
  | some cause => .error (.transport ("Failed to read search response: " ++ cause))
  | none => Listing.read d.bytes

/-- Whether the body of an answered operation reports success. -/
def checkOperation (body : List UInt8) : Except Failure Unit :=
  match OperationResponse.read? body with
  | none => .error (.unreadable "Invalid operation response")
  | some r =>
    if r.isOk then .ok () else .error (.rejected 200 ("status '" ++ r.status ++ "'"))

/-- The percentages and the result of an install. -/
def installResult (url id : String) (reply : Reply) : List Nat × Except Failure Unit :=
  match reply.success url with
  | .error failure => ([], .error failure)
  | .ok d =>
    let (percentages, w) := (Download.start d.announced).receiveAll d.pieces
    (percentages,
      match d.interrupted with
      | some cause => .error (.transport ("Install of " ++ id ++ " interrupted: " ++ cause))
      | none => checkOperation w.body)

/-- The result of an uninstall. -/
def uninstallResult (url id : String) (reply : Reply) : Except Failure Unit := do
  let d ← reply.success url
  match d.interrupted with
  | some cause =>
    .error (.transport ("Failed to read uninstall response for " ++ id ++ ": " ++ cause))
  | none => checkOperation d.bytes

/-- How requests are answered. -/
abbrev Network := Url → Reply

/-- Search the catalogue at an endpoint. -/
def search (network : Network) (endpoint : Url) (keyword : String) : Except Failure Listing := do
  let url ← searchUrl endpoint keyword
  searchResult url.text (network url)

/-- Install or uninstall a package; an install also has percentages. -/
def operate (network : Network) (endpoint : Url) (o : Operation) (id : String) :
    List Nat × Except Failure Unit :=
  match operationUrl endpoint o id with
  | .error failure => ([], .error failure)
  | .ok url =>
    match o with
    | .install => installResult url.text id (network url)
    | .uninstall => ([], uninstallResult url.text id (network url))

/-- A network on which nothing can be reached. -/
def offline : Network := fun url =>
  let cause :=
    if url.scheme = "http" ∨ url.scheme = "https" then
      "error trying to connect: tcp connect error: Network is unreachable (os error 101)"
    else "URL scheme is not allowed"
  let step :=
    if url.scheme = "http" ∨ url.scheme = "https" then "error sending request" else "builder error"
  .unreachable (step ++ " for url (" ++ url.text ++ "): " ++ cause)

end ExtensionCatalogue.Client
