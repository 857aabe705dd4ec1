import ExtensionCatalogue.Catalog.Basic
import ExtensionCatalogue.Client.Basic
import ExtensionCatalogue.Settings
import ExtensionCatalogue.Sync.Event

/-!
# Reports of commands

The lines that a command prints, how packages stand in them, and why a command fails.
-/

namespace ExtensionCatalogue.CommandLine

/-- The version of the program. -/
def version : String := "0.1.0"

def programName : String := "extcat"

inductive Problem where
  | settings (p : Settings.Problem)
  | catalogue (p : Catalog.Problem)
  | request (f : Failure)
  /-- The address is in use or not available. -/
  | bind (address : SocketAddress)
  /-- No package of the catalogue has the id. -/
  | unknown (id : String)
  deriving DecidableEq, Repr

/-- What failed, from the outside in. -/
def Problem.contexts : Problem → List String
  | settings p => p.contexts
  | catalogue p => p.contexts
  | request f => [f.text]
  | bind address => ["Failed to bind " ++ address.text]
  | unknown id => [s!"Extension '{id}' not found in catalogue"]

/-- The line that reports a failure; what is inside it comes in lines of its own. -/
def Problem.headline (p : Problem) : String := "Error: " ++ p.contexts.headD ""

/-- What a command has printed, and how it ended. -/
structure Report where
  lines : List String
  notices : List Notice
  result : Except Problem Unit

def Report.done (lines : List String) : Report := ⟨lines, [], .ok ()⟩

def Report.failed (p : Problem) : Report := ⟨[], [], .error p⟩

/-! ## Packages in lines -/

/-- The text with blanks after it up to a width. -/
def padRight (width : Nat) (s : String) : String :=
  s ++ String.ofList (List.replicate (width - s.length) ' ')

/-- The text with blanks before it up to a width. -/
def padLeft (width : Nat) (s : String) : String :=
  String.ofList (List.replicate (width - s.length) ' ') ++ s

/-- The rating on display, with one decimal place. -/
def ratingText (p : Package) : String := String.ofList (p.displayRating.fixed 1)

/-- A row of the table of packages. -/
def row (id version rating installs name : String) : String :=
  padRight 34 id ++ " " ++ padRight 10 version ++ " " ++ padLeft 6 rating ++ " " ++
    padLeft 9 installs ++ "  " ++ name

def packageRow (p : Package) : String :=
  row p.id p.version (ratingText p) (toString p.installs.toNat) p.name

/-- The result of a search as a table. -/
def table : List Package → List String
  | [] => ["No extensions found."]
  | ps =>
    row "ID" "VERSION" "RATING" "INSTALLS" "NAME" :: ps.map packageRow ++
      ["", s!"{ps.length} result(s)"]

/-- A package in a list of a session. -/
def packageLine (p : Package) : String :=
  s!"  {p.name} {p.version} [{p.id}] by {p.author} ({ratingText p}, {p.installs.toNat} installs)"

/-! ## Events in lines -/

/-- A line of output, or of errors. -/
inductive Line where
  | out (text : String)
  | err (text : String)
  deriving DecidableEq, Repr

/-- The lines of an event. -/
def eventLines : Sync.Event → List Line
  | .registryChanged installed recommended =>
    .out s!"INSTALLED ({installed.length})" :: installed.map (.out ∘ packageLine) ++
      .out s!"RECOMMENDED ({recommended.length})" :: recommended.map (.out ∘ packageLine)
  | .status s => if s.isError then [.err ("! " ++ s.text)] else [.out ("> " ++ s.text)]
  | .progress id percent => [.out s!"  {id}: {percent}%"]

end ExtensionCatalogue.CommandLine
