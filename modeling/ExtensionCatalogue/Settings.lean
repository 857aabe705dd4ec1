import ExtensionCatalogue.Net.SocketAddress
import ExtensionCatalogue.Sync.Machine
import ExtensionCatalogue.Toml.Parser
import ExtensionCatalogue.Url.Parse

/-!
# Settings

The settings of a configuration file: a section for the server and one for the client, where every
key has a default. A section is a table; an array gives its fields in order instead. Addresses and
URLs stay texts until a command needs them.
-/

namespace ExtensionCatalogue

structure ServerSection where
  bind : String
  catalogue : Option String
  deriving DecidableEq, Repr

structure ClientSection where
  endpoint : String
  debounceMs : UInt64
  timeoutSecs : UInt64
  initialLoad : Bool
  deriving DecidableEq, Repr

structure Settings where
  server : ServerSection
  client : ClientSection
  deriving DecidableEq, Repr

namespace Settings

/-- The port of a catalogue server. -/
def defaultPort : Nat := 8765

def defaultServer : ServerSection := ⟨s!"127.0.0.1:{defaultPort}", none⟩

def defaultClient : ClientSection := ⟨s!"http://127.0.0.1:{defaultPort}/", 350, 30, true⟩

def default : Settings := ⟨defaultServer, defaultClient⟩

/-- The address that a server has without any settings. -/
def defaultAddress : SocketAddress := .v4 (Ipv4.ofOctets 127 0 0 1) defaultPort

/-- Why there are no settings, or why one of them cannot be used. -/
inductive Problem where
  | malformed
  | unreadableFile (path : String)
  | malformedFile (path : String)
  | bind (text : String)
  | endpoint (text : String)
  deriving DecidableEq, Repr

def malformedText : String := "Invalid TOML configuration"

/-- What failed, from the outside in. -/
def Problem.contexts : Problem → List String
  | malformed => [malformedText]
  | unreadableFile path => ["Failed to read config file: " ++ path]
  | malformedFile path => ["Failed to parse config file: " ++ path, malformedText]
  | bind text => ["Invalid bind address: " ++ text]
  | endpoint text => ["Invalid catalogue endpoint: " ++ text]

def Problem.text (p : Problem) : String := String.intercalate ": " p.contexts

/-! ## From TOML -/

open Toml (Value)

/-- The fields of a section. A date has none of them. -/
def fields? (keys : List String) : Value → Option (String → Option Value)
  | .table _ es => some fun key => es.lookup key
  | .array items => some fun key => (keys.zip items).lookup key
  | .tables items => some fun key =>
      (keys.zip (items.map fun (kind, es) => Value.table kind es)).lookup key
  | .dateTime => some fun _ => none
  | _ => none

def textOf? : Value → Option String
  | .text s => some s
  | _ => none

/-- An integer that is not negative. -/
def wordOf? : Value → Option UInt64
  | .integer (.ofNat n) => some (.ofNat n)
  | _ => none

def booleanOf? : Value → Option Bool
  | .boolean b => some b
  | _ => none

/-- A field with a default, which must be readable when it is there. -/
def field? {α : Type} (default : α) (read? : Value → Option α) : Option Value → Option α
  | none => some default
  | some v => read? v

def server? : Option Value → Option ServerSection
  | none => some defaultServer
  | some v => do
    let get ← fields? ["bind", "catalogue"] v
    return ⟨← field? defaultServer.bind textOf? (get "bind"),
      ← field? none (fun v => (textOf? v).map some) (get "catalogue")⟩

def client? : Option Value → Option ClientSection
  | none => some defaultClient
  | some v => do
    let get ← fields? ["endpoint", "debounce_ms", "timeout_secs", "initial_load"] v
    return ⟨← field? defaultClient.endpoint textOf? (get "endpoint"),
      ← field? defaultClient.debounceMs wordOf? (get "debounce_ms"),
      ← field? defaultClient.timeoutSecs wordOf? (get "timeout_secs"),
      ← field? defaultClient.initialLoad booleanOf? (get "initial_load")⟩

/-- The settings that a configuration text holds. -/
def parse? (text : String) : Option Settings := do
  let es ← Toml.parse? text
  return ⟨← server? (es.lookup "server"), ← client? (es.lookup "client")⟩

/-- The settings of the file at `path`, where `content?` is what the file holds. -/
def ofFile (path : String) (content? : Option (List UInt8)) : Except Problem Settings :=
  match content?.bind Utf8.decode? with
  | none => .error (.unreadableFile path)
  | some text =>
    match parse? text with
    | some s => .ok s
    | none => .error (.malformedFile path)

/-! ## What commands take from them -/

/-- Where a server listens and which catalogue file it publishes. -/
structure ServerPlan where
  address : SocketAddress
  catalogue : Option String
  deriving DecidableEq, Repr

def serverPlan (s : Settings) : Except Problem ServerPlan :=
  match SocketAddress.ofString? s.server.bind with
  | some address => .ok ⟨address, s.server.catalogue⟩
  | none => .error (.bind s.server.bind)

def parseEndpoint (text : String) : Except Problem Url :=
  match Url.parse text with
  | .ok url => .ok url
  | .error _ => .error (.endpoint text)

/-- The endpoint of the catalogue. -/
def endpoint (s : Settings) : Except Problem Url := parseEndpoint s.client.endpoint

/-- The settings of the sync controller. -/
def sync (s : Settings) : Except Problem Sync.Settings :=
  s.endpoint.map fun url => ⟨url, s.client.debounceMs.toNat, s.client.initialLoad⟩

end Settings

end ExtensionCatalogue
