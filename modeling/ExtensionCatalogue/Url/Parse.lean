import ExtensionCatalogue.Text.Blank
import ExtensionCatalogue.Url.Authority
import ExtensionCatalogue.Url.Path

/-!
# Reading URLs

A text is cleaned, cut into scheme, body, query and fragment, and then read by its scheme: the
special schemes have an authority whatever the number of slashes, `file` has drives, and any other
scheme has an authority only after two slashes. Without a scheme the text is resolved against a
base.
-/

namespace ExtensionCatalogue.Url

/-! ## Cutting -/

/-- The text without outer control characters and spaces, and without tabs and line ends. -/
def clean (cs : List Char) : List Char :=
  let outer (c : Char) : Bool := c.toNat ≤ 0x20
  (Text.dropEndWhile outer (cs.dropWhile outer)).filter (· ∉ ['\t', '\n', '\r'])

/-- What follows the scheme: the body up to the query, the query and the fragment. -/
structure Sections where
  body : List Char
  query : Option (List Char)
  fragment : Option (List Char)
  deriving DecidableEq, Repr

def sections (cs : List Char) : Sections :=
  let (front, fragment) := match cs.span (· ≠ '#') with
    | (front, _ :: fragment) => (front, some fragment)
    | (front, []) => (front, none)
  match front.span (· ≠ '?') with
  | (body, _ :: query) => ⟨body, some query, fragment⟩
  | (body, []) => ⟨body, none, fragment⟩

def isSchemeChar (c : Char) : Bool :=
  c.isAlphanum || c == '+' || c == '-' || c == '.'

/-- The scheme in lower case and what follows its colon. -/
def splitScheme? (cs : List Char) : Option (String × List Char) :=
  match cs with
  | c :: _ =>
    if isLetter c then
      match cs.span isSchemeChar with
      | (scheme, ':' :: rest) => some (String.ofList (scheme.map Char.toLower), rest)
      | _ => none
    else none
  | [] => none

/-! ## Whole URLs -/

/-- In the special schemes both slashes mean the same. -/
def isSlash (c : Char) : Bool := c == '/' || c == '\\'

/-- A URL with the query and fragment of a text, encoded. -/
def withTail (u : Url) (s : Sections) : Url :=
  let reserved := if (Family.ofScheme u.scheme).isSpecial then inSpecialQuery else inQuery
  { u with
    query := s.query.map fun q => String.ofList (Percent.encode reserved q)
    fragment := s.fragment.map fun f => String.ofList (Percent.encode inFragment f) }

def ofPath (scheme : String) (a : Option Authority) (path : List Char) : Url :=
  ⟨scheme, a, String.ofList path, none, none⟩

/-- The body of a URL after two slashes. -/
def ofAuthority (scheme : String) (s : Sections) (body : List Char) : Except Problem Url := do
  let followed := s.query.isSome || s.fragment.isSome
  let (a, rest) ← Authority.read scheme followed body
  return withTail (ofPath scheme (some a) (readRooted (Family.ofScheme scheme) rest).1) s

/-- The first segment of a path. -/
def firstSegment (path : List Char) : List Char :=
  (path.drop 1).takeWhile (· ≠ '/')

/-- The body of a `file` URL after two slashes: a host, unless it is a drive, and a path. -/
def ofFileHost (s : Sections) (body : List Char) : Except Problem Url := do
  let (hostText, rest) := body.span (!isSlash ·)
  let drive := isDrive hostText
  let host ← if drive || hostText.isEmpty then pure (.name "") else Host.ofChars hostText
  if drive then
    return withTail (ofPath "file" (some Authority.hostless) (readPath .file ['/'] body).1) s
  else if host = .name "" ∨ host = .name "localhost" then
    return withTail (ofPath "file" (some Authority.hostless) (readPath .file ['/'] rest).1) s
  else
    let (path, drive) := readRooted .file rest
    let a := if drive then Authority.hostless else { Authority.hostless with host }
    return withTail (ofPath "file" (some a) path) s

/-- A URL that takes what its text leaves out from a base. -/
def withoutBody (base : Url) (s : Sections) : Url :=
  let u := withTail base s
  if s.query.isNone then { u with query := base.query } else u

/-- A `file` URL. -/
def ofFile (base? : Option Url) (s : Sections) : Except Problem Url :=
  match s.body with
  | [] =>
    match base? with
    | some base => .ok (withoutBody base s)
    | none => .ok (withTail (ofPath "file" (some Authority.hostless) ['/']) s)
  | c :: rest =>
    if isSlash c then
      match rest with
      | d :: rest' =>
        if isSlash d then ofFileHost s rest' else oneSlash rest
      | [] => oneSlash rest
    else
      match base? with
      | some base =>
        if startsWithDrive s.body then
          .ok (withTail (ofPath "file" (some Authority.hostless) (readPath .file ['/'] s.body).1) s)
        else
          let start := (popSegment .file base.path.toList.reverse).reverse
          .ok (withTail (ofPath "file" base.authority (readPath .file start s.body).1) s)
      | none =>
        .ok (withTail (ofPath "file" (some Authority.hostless) (readPath .file ['/'] s.body).1) s)
where
  /-- A body with one slash keeps the drive or the host of the base. -/
  oneSlash (rest : List Char) : Except Problem Url :=
    let (a, start) : Authority × List Char :=
      match base? with
      | some base =>
        let first := firstSegment base.path.toList
        if startsWithDrive rest then (Authority.hostless, [])
        else if endsWithDrive first.reverse then (Authority.hostless, '/' :: first)
        else ({ Authority.hostless with host := (base.authority.getD Authority.hostless).host }, [])
      | none => (Authority.hostless, [])
    .ok (withTail (ofPath "file" (some a) (readPath .file start s.body).1) s)

/-- A text without a scheme, or with the scheme of its base and at most one slash. -/
def ofRelative (base : Url) (s : Sections) : Except Problem Url :=
  let family := Family.ofScheme base.scheme
  match s.body with
  | [] => .ok (withoutBody base s)
  | c :: rest =>
    if isSlash c then
      let slashes := s.body.takeWhile isSlash
      if 2 ≤ slashes.length then
        if slashes.take 2 = ['/', '/'] then ofAuthority base.scheme s (s.body.drop 2)
        else ofAuthority base.scheme s (s.body.drop slashes.length)
      else .ok (withTail (ofPath base.scheme base.authority (readPath family ['/'] rest).1) s)
    else
      let start := (popSegment family base.path.toList.reverse).reverse
      let start := if start.isEmpty then ['/'] else start
      .ok (withTail (ofPath base.scheme base.authority (readPath family start s.body).1) s)

/-- A text after its scheme. -/
def ofScheme (base? : Option Url) (scheme : String) (s : Sections) : Except Problem Url :=
  match Family.ofScheme scheme with
  | .file => ofFile (base?.filter (·.scheme = "file")) s
  | .special =>
    let slashes := s.body.takeWhile isSlash
    match base?.filter fun b => slashes.length < 2 && b.scheme == scheme with
    | some base => ofRelative base s
    | none => ofAuthority scheme s (s.body.drop slashes.length)
  | .other =>
    match s.body with
    | '/' :: '/' :: rest => ofAuthority scheme s rest
    | '/' :: rest => .ok (withTail (ofPath scheme none (readPath .other ['/'] rest).1) s)
    | body => .ok (withTail (ofPath scheme none (Percent.encode isControl body)) s)

/-- The URL that a text writes, against a base if there is one. -/
def resolve (base? : Option Url) (text : String) : Except Problem Url :=
  let cs := clean text.toList
  match splitScheme? cs with
  | some (scheme, rest) => ofScheme base? scheme (sections rest)
  | none =>
    let s := sections cs
    match base? with
    | none => .error .noBase
    | some base =>
      if s.body.isEmpty && s.query.isNone && s.fragment.isSome then .ok (withoutBody base s)
      else if base.isRootless then .error .rootlessBase
      else if base.scheme = "file" then ofFile (some base) s
      else ofRelative base s

def parse (text : String) : Except Problem Url := resolve none text

/-- The URL that a reference names on the page of `base`. -/
def join (base : Url) (reference : String) : Except Problem Url := resolve (some base) reference

end ExtensionCatalogue.Url
