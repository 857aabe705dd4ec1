import ExtensionCatalogue.Failure
import ExtensionCatalogue.Text.Form
import ExtensionCatalogue.Url.Parse

/-!
# Request URLs

A request goes to a path below the endpoint, with one parameter. The endpoint counts as a
directory whether or not its path ends in a slash, and its own query and fragment are left out.
-/

namespace ExtensionCatalogue

namespace Url

/-- The URL as a directory. The path of a `file` URL is read again with its new slash, which may
complete a drive. -/
def directory (u : Url) : Url :=
  let u := { u with query := none, fragment := none }
  if u.path.endsWith "/" then u
  else
    let path := u.path ++ "/"
    if u.scheme = "file" then
      { u with path := String.ofList (readPath .file [] path.toList).1 }
    else { u with path }

/-- The URL with one more parameter in its query. -/
def appendPair (u : Url) (key value : String) : Url :=
  let pair := String.ofList (Form.encodePair key value)
  match u.query with
  | none => { u with query := some pair }
  | some q => { u with query := some (if q.isEmpty then pair else q ++ "&" ++ pair) }

end Url

namespace Client

/-- The URL of a request to `path` below the endpoint. -/
def requestUrl (endpoint : Url) (path key value : String) : Except Failure Url :=
  if endpoint.isRootless then .error (.invalidEndpoint endpoint.text)
  else
    match endpoint.directory.join path with
    | .error problem => .error (.invalidEndpoint (endpoint.text ++ ": " ++ problem.text))
    | .ok url => .ok (url.appendPair key value)

end Client

end ExtensionCatalogue
