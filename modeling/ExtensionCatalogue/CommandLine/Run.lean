import ExtensionCatalogue.CommandLine.Arguments
import ExtensionCatalogue.CommandLine.Session

/-!
# Running commands

Every command first resolves the settings that it needs from its options and the configuration.
Options override single settings, but a section whose setting is overridden is still read as a
whole by `serve` and `browse`.
-/

namespace ExtensionCatalogue.CommandLine

/-- What a file holds, if it can be read. -/
abbrev Files := String → Option (List UInt8)

/-! ## Settings of commands -/

/-- The configuration that an option names, or the defaults. -/
def loadSettings (files : Files) : Option String → Except Settings.Problem Settings
  | some path => Settings.ofFile path (files path)
  | none => .ok .default

/-- The endpoint of a single request. -/
def resolveEndpoint (s : Settings) : Option String → Except Settings.Problem Url
  | some text => Settings.parseEndpoint text
  | none => s.endpoint

/-- The settings of a session. -/
def resolveSync (s : Settings) (endpoint : Option String) :
    Except Settings.Problem Sync.Settings := do
  let sync ← s.sync
  match endpoint with
  | some text => return { sync with endpoint := ← Settings.parseEndpoint text }
  | none => return sync

/-- Where a server listens and what it publishes. -/
def resolveServer (s : Settings) (bind : Option SocketAddress) (catalogue : Option String) :
    Except Settings.Problem Settings.ServerPlan := do
  let plan ← s.serverPlan
  return ⟨bind.getD plan.address, catalogue <|> plan.catalogue⟩

/-- The catalogue that a server publishes. -/
def loadCatalog (files : Files) : Option String → Except Catalog.Problem (Catalog × List Notice)
  | some path => Catalog.ofFile path (files path)
  | none => .ok (.bundled, [])

/-! ## Commands -/

def settingsProblem {α : Type} : Except Settings.Problem α → Except Problem α :=
  Except.mapError .settings

def greeting : List String :=
  [s!"{programName} v{version}", s!"Run '{programName} --help' for usage information"]

/-- The package of an id among all packages of a catalogue. -/
def findPackage (network : Client.Network) (endpoint : Url) (id : String) :
    Except Problem Package := do
  let listing ← (Client.search network endpoint "").mapError .request
  match listing.packages.find? (·.id == id) with
  | some p => return p
  | none => throw (.unknown id)

def searchReport (network : Client.Network) (s : Settings) (keyword : String)
    (endpoint : Option String) : Report :=
  let result : Except Problem (List Package) := do
    let url ← settingsProblem (resolveEndpoint s endpoint)
    let listing ← (Client.search network url keyword).mapError .request
    return listing.packages
  match result with
  | .ok ps => .done (table ps)
  | .error p => .failed p

/-- The notices of the percentages of an install. -/
def progressNotices (l : ProgressLog) : List Nat → List Notice
  | [] => []
  | p :: ps =>
    let (n, l) := l.report p
    n.toList ++ progressNotices l ps

/-- Install or uninstall a package of the catalogue. One that is installed is not installed
again. -/
def operateReport (network : Client.Network) (s : Settings) (o : Operation) (id : String)
    (endpoint : Option String) : Report :=
  let found : Except Problem (Url × Package) := do
    let url ← settingsProblem (resolveEndpoint s endpoint)
    return (url, ← findPackage network url id)
  match found with
  | .error p => .failed p
  | .ok (url, p) =>
    if o = .install ∧ p.installed then .done [p.name ++ " is already installed"]
    else
      let (percents, result) := Client.operate network url o p.id
      let notices := progressNotices (.start p.id) percents
      match result with
      | .ok () => ⟨[s!"{o.done} {p.name}"], notices, .ok ()⟩
      | .error f => ⟨[], notices, .error (.request f)⟩

/-- Where to listen and the catalogue to publish there. -/
def servePlan (files : Files) (s : Settings) (bind : Option SocketAddress)
    (catalogue : Option String) : Except Problem (SocketAddress × Catalog) := do
  let plan ← settingsProblem (resolveServer s bind catalogue)
  let (c, _) ← (loadCatalog files plan.catalogue).mapError .catalogue
  return (plan.address, c)

/-- The catalogue file that an invocation reads, if it reads one. -/
def cataloguePath? (files : Files) (i : Invocation) : Option String :=
  match i.action, loadSettings files i.config with
  | .serve _ catalogue, .ok s => catalogue <|> s.server.catalogue
  | _, _ => none

/-- What is left to do after the settings are resolved. -/
inductive Task where
  | report (r : Report)
  | serve (address : SocketAddress) (c : Catalog)
  | browse (settings : Sync.Settings)

/-- The task of an invocation. -/
def task (files : Files) (network : Client.Network) (i : Invocation) : Task :=
  match loadSettings files i.config with
  | .error p => .report (.failed (.settings p))
  | .ok s =>
    match i.action with
    | .greet => .report (.done greeting)
    | .search keyword endpoint => .report (searchReport network s keyword endpoint)
    | .operate o id endpoint => .report (operateReport network s o id endpoint)
    | .serve bind catalogue =>
      match servePlan files s bind catalogue with
      | .error p => .report (.failed p)
      | .ok (address, c) => .serve address c
    | .browse endpoint =>
      match resolveSync s endpoint with
      | .error p => .report (.failed (.settings p))
      | .ok settings => .browse settings

end ExtensionCatalogue.CommandLine
