import ExtensionCatalogue.CommandLine.Run
import Mathlib.Order.Basic

/-!
# Options and the configuration

An option of a command overrides a setting of the configuration, so what the command resolves
(`Action.resolve`, on which all that is left to do depends by `task_congr`) should not depend on
that setting. It does not for the endpoint of a single request and for the catalogue of a server.
A session and a server read their section as a whole before they look at their options, so for the
endpoint of the one and the address of the other it does not as long as the setting can be used at
all (`overrides`).
-/

namespace ExtensionCatalogue.CommandLine

/-- What a command takes from its options and the configuration. -/
inductive Resolved where
  | nothing
  | request (endpoint : Url) (timeoutSecs : UInt64)
  | session (sync : Sync.Settings) (timeoutSecs : UInt64)
  | server (plan : Settings.ServerPlan)
  deriving DecidableEq, Repr

namespace Action

def resolve (s : Settings) : Action → Except Settings.Problem Resolved
  | .greet => .ok .nothing
  | .search _ endpoint | .operate _ _ endpoint =>
    (resolveEndpoint s endpoint).map (.request · s.client.timeoutSecs)
  | .browse endpoint => (resolveSync s endpoint).map (.session · s.client.timeoutSecs)
  | .serve bind catalogue => (resolveServer s bind catalogue).map .server

/-- The configuration without the settings that the options of an action override. -/
def strip (s : Settings) : Action → Settings
  | .search _ (some _) | .operate _ _ (some _) | .browse (some _) =>
    { s with client := { s.client with endpoint := "" } }
  | .serve bind catalogue =>
    { s with
      server := ⟨if bind.isSome then "" else s.server.bind,
        if catalogue.isSome then none else s.server.catalogue⟩ }
  | _ => s

/-- What an action resolves if its options are used. There is nothing if it has no options, or if
they are not all there is and the rest cannot be used. -/
def given? (s : Settings) : Action → Option Resolved
  | .search _ (some text) | .operate _ _ (some text) =>
    (Url.parse text).toOption.map (.request · s.client.timeoutSecs)
  | .browse (some text) => (Url.parse text).toOption.map fun url =>
    .session ⟨url, s.client.debounceMs.toNat, s.client.initialLoad⟩ s.client.timeoutSecs
  | .serve (some address) catalogue => some (.server ⟨address, catalogue <|> s.server.catalogue⟩)
  | .serve none (some path) => (SocketAddress.ofString? s.server.bind).map fun address =>
    .server ⟨address, some path⟩
  | _ => none

/-- The overridden settings that an action reads all the same can be used. -/
def Usable (s : Settings) : Action → Prop
  | .browse (some _) => ∃ url, Url.parse s.client.endpoint = .ok url
  | .serve (some _) _ => ∃ address, SocketAddress.ofString? s.server.bind = some address
  | _ => True

end Action

/-! ## One configuration -/

theorem parseEndpoint_of_ok {text : String} {url : Url} (h : Url.parse text = .ok url) :
    Settings.parseEndpoint text = .ok url := by
  rw [Settings.parseEndpoint, h]

section

variable {s : Settings}

theorem resolveSync_of_usable {url : Url} (h : Url.parse s.client.endpoint = .ok url)
    (text : String) : resolveSync s (some text) = (Settings.parseEndpoint text).map fun url =>
      ⟨url, s.client.debounceMs.toNat, s.client.initialLoad⟩ := by
  rw [resolveSync, Settings.sync, Settings.endpoint, parseEndpoint_of_ok h]
  show (do
    let url ← Settings.parseEndpoint text
    return (⟨url, s.client.debounceMs.toNat, s.client.initialLoad⟩ : Sync.Settings)) = _
  cases Settings.parseEndpoint text <;> rfl

theorem resolveSync_of_unusable {e : Url.Problem} (h : Url.parse s.client.endpoint = .error e)
    (endpoint : Option String) :
    resolveSync s endpoint = .error (.endpoint s.client.endpoint) := by
  rw [resolveSync, Settings.sync, Settings.endpoint, Settings.parseEndpoint, h]
  rfl

theorem resolveServer_of_usable {address : SocketAddress}
    (h : SocketAddress.ofString? s.server.bind = some address) (bind : Option SocketAddress)
    (catalogue : Option String) : resolveServer s bind catalogue =
      .ok ⟨bind.getD address, catalogue <|> s.server.catalogue⟩ := by
  rw [resolveServer, Settings.serverPlan, h]
  rfl

theorem resolveServer_of_unusable (h : SocketAddress.ofString? s.server.bind = none)
    (bind : Option SocketAddress) (catalogue : Option String) :
    resolveServer s bind catalogue = .error (.bind s.server.bind) := by
  rw [resolveServer, Settings.serverPlan, h]
  rfl

end

namespace Action

variable {s s' : Settings} {a : Action} {r : Resolved}

/-- An action that resolves its settings can use all that it reads. -/
theorem usable_of_resolve (h : a.resolve s = .ok r) : a.Usable s := by
  cases a with
  | greet | search _ endpoint | operate _ _ endpoint => trivial
  | browse endpoint =>
    cases endpoint with
    | none => trivial
    | some text =>
      cases hurl : Url.parse s.client.endpoint with
      | ok url => exact ⟨url, hurl⟩
      | error e =>
        rw [resolve, resolveSync_of_unusable hurl] at h
        cases h
  | serve bind catalogue =>
    cases bind with
    | none => trivial
    | some address =>
      cases hconfigured : SocketAddress.ofString? s.server.bind with
      | some configured => exact ⟨configured, hconfigured⟩
      | none =>
        rw [resolve, resolveServer_of_unusable hconfigured] at h
        cases h

/-- A valid URL is the endpoint of a single request. -/
theorem map_parseEndpoint_of_given {text : String} {f : Url → Resolved}
    (h : (Url.parse text).toOption.map f = some r) :
    (Settings.parseEndpoint text).map f = .ok r := by
  cases hurl : Url.parse text with
  | error e =>
    rw [hurl] at h
    cases h
  | ok url =>
    rw [hurl] at h
    rw [parseEndpoint_of_ok hurl]
    exact congrArg Except.ok (Option.some.inj h)

theorem resolve_of_given (h : a.given? s = some r) (husable : a.Usable s) :
    a.resolve s = .ok r := by
  cases a with
  | greet => cases h
  | search _ endpoint | operate _ _ endpoint =>
    cases endpoint with
    | none => cases h
    | some text => exact map_parseEndpoint_of_given h
  | browse endpoint =>
    cases endpoint with
    | none => cases h
    | some text =>
      obtain ⟨url, hurl⟩ := husable
      have hsession := map_parseEndpoint_of_given h
      rw [resolve, resolveSync_of_usable hurl, ← hsession]
      cases Settings.parseEndpoint text <;> rfl
  | serve bind catalogue =>
    cases bind with
    | some address =>
      obtain ⟨configured, hconfigured⟩ := husable
      rw [resolve, resolveServer_of_usable hconfigured]
      exact congrArg Except.ok (Option.some.inj h)
    | none =>
      cases catalogue with
      | none => cases h
      | some path =>
        obtain ⟨address, haddress, hr⟩ := Option.map_eq_some_iff.1 h
        rw [resolve, resolveServer_of_usable haddress]
        exact congrArg Except.ok hr

theorem resolve_congr (h : a.strip s = a.strip s') (husable : a.Usable s)
    (husable' : a.Usable s') : a.resolve s = a.resolve s' := by
  cases a with
  | greet => rfl
  | search _ endpoint | operate _ _ endpoint =>
    cases endpoint with
    | none => rw [show s = s' from h]
    | some text =>
      have htimeout : s.client.timeoutSecs = s'.client.timeoutSecs :=
        congrArg (·.client.timeoutSecs) h
      rw [resolve, resolve, htimeout]
      rfl
  | browse endpoint =>
    cases endpoint with
    | none => rw [show s = s' from h]
    | some text =>
      obtain ⟨url, hurl⟩ := husable
      obtain ⟨url', hurl'⟩ := husable'
      have hdebounce : s.client.debounceMs = s'.client.debounceMs :=
        congrArg (·.client.debounceMs) h
      have htimeout : s.client.timeoutSecs = s'.client.timeoutSecs :=
        congrArg (·.client.timeoutSecs) h
      have hload : s.client.initialLoad = s'.client.initialLoad :=
        congrArg (·.client.initialLoad) h
      rw [resolve, resolve, resolveSync_of_usable hurl, resolveSync_of_usable hurl', hdebounce,
        htimeout, hload]
  | serve bind catalogue =>
    have hcatalogue : (catalogue <|> s.server.catalogue) = (catalogue <|> s'.server.catalogue) := by
      cases catalogue with
      | none => exact congrArg (·.server.catalogue) h
      | some path => rfl
    cases bind with
    | some address =>
      obtain ⟨configured, hconfigured⟩ := husable
      obtain ⟨configured', hconfigured'⟩ := husable'
      rw [resolve, resolve, resolveServer_of_usable hconfigured,
        resolveServer_of_usable hconfigured', hcatalogue]
      rfl
    | none =>
      have hsame : s.server.bind = s'.server.bind := congrArg (·.server.bind) h
      cases haddress : SocketAddress.ofString? s.server.bind with
      | some address =>
        rw [resolve, resolve, resolveServer_of_usable haddress,
          resolveServer_of_usable (hsame ▸ haddress), hcatalogue]
      | none =>
        rw [resolve, resolve, resolveServer_of_unusable haddress,
          resolveServer_of_unusable (hsame ▸ haddress), hsame]

end Action

/-! ## What is left to do -/

theorem eq_of_map_eq {ε α β : Type} {f g : α → β} (hfg : ∀ a b, f a = g b → a = b)
    {x y : Except ε α} (h : x.map f = y.map g) : x = y := by
  cases x with
  | error e =>
    cases y with
    | error e' => exact congrArg Except.error (Except.error.inj h)
    | ok b => cases h
  | ok a =>
    cases y with
    | error e' => cases h
    | ok b => exact congrArg Except.ok (hfg a b (Except.ok.inj h))

/-- What is left to do depends on the configuration by what the action resolves from it. -/
theorem task_congr {files : Files} {config config' : Option String} {s s' : Settings} {a : Action}
    (hs : loadSettings files config = .ok s) (hs' : loadSettings files config' = .ok s')
    (h : a.resolve s = a.resolve s') (network : Client.Network) :
    task files network ⟨config, a⟩ = task files network ⟨config', a⟩ := by
  rw [task, task, hs, hs']
  cases a with
  | greet => rfl
  | search keyword endpoint =>
    have hendpoint : resolveEndpoint s endpoint = resolveEndpoint s' endpoint :=
      eq_of_map_eq (fun _ _ he => (Resolved.request.inj he).1) h
    simp only [searchReport, hendpoint]
  | operate o id endpoint =>
    have hendpoint : resolveEndpoint s endpoint = resolveEndpoint s' endpoint :=
      eq_of_map_eq (fun _ _ he => (Resolved.request.inj he).1) h
    simp only [operateReport, hendpoint]
  | browse endpoint =>
    have hsync : resolveSync s endpoint = resolveSync s' endpoint :=
      eq_of_map_eq (fun _ _ he => (Resolved.session.inj he).1) h
    simp only [hsync]
  | serve bind catalogue =>
    have hserver : resolveServer s bind catalogue = resolveServer s' bind catalogue :=
      eq_of_map_eq (fun _ _ he => Resolved.server.inj he) h
    simp only [servePlan, hserver]

/-! ## Overriding -/

/-- The options of an action override the configuration: two configurations that differ in the
overridden settings alone, and in which those that are read all the same can be used, resolve to
the same settings or the same problem, and the values of valid options are what is resolved. -/
structure Overrides (a : Action) : Prop where
  independent : ∀ s s', a.strip s = a.strip s' → a.Usable s → a.Usable s' →
    a.resolve s = a.resolve s'
  used : ∀ s r, a.given? s = some r → (a.resolve s = .ok r ↔ a.Usable s)
  unnoticed : ∀ files network config config' s s',
    loadSettings files config = .ok s → loadSettings files config' = .ok s' →
    a.strip s = a.strip s' → a.Usable s → a.Usable s' →
    task files network ⟨config, a⟩ = task files network ⟨config', a⟩

/-- **Options override the configuration**, as long as a session or a server can use the setting
that it reads in spite of its option. -/
theorem overrides (a : Action) : Overrides a where
  independent s s' h husable husable' := Action.resolve_congr h husable husable'
  used s r hgiven := by
    constructor
    · intro hresolved
      exact Action.usable_of_resolve hresolved
    · intro husable
      exact Action.resolve_of_given hgiven husable
  unnoticed files network config config' s s' hs hs' h husable husable' := by
    have hresolve := Action.resolve_congr h husable husable'
    exact task_congr hs hs' hresolve network

/-- A configuration with this endpoint. -/
def configured (endpoint : String) : Settings :=
  ⟨⟨"[::1]:8765", none⟩, ⟨endpoint, 350, 30, true⟩⟩

/-- The root of a catalogue on this port of the same host. -/
def root (port : Option Nat) : Url :=
  ⟨"http", some ⟨"", none, .ipv6 ⟨[0, 0, 0, 0, 0, 0, 0, 1]⟩, port⟩, "/", none, none⟩

/-- A session where two configurations name usable endpoints, and a request where the configuration
names none. -/
theorem overrides_configured :
    let browse : Action := .browse (some "http://[::1]/")
    let search : Action := .search "mesh" (some "http://[::1]/")
    browse.Usable (configured "http://[::1]:1/") ∧ browse.Usable (configured "http://[::1]:2/") ∧
      browse.resolve (configured "http://[::1]:1/") =
        browse.resolve (configured "http://[::1]:2/") ∧
      search.resolve (configured "::nope") = .ok (.request (root none) 30) := by
  intro browse search
  have hone : Url.parse "http://[::1]:1/" = .ok (root (some 1)) := by decide +kernel
  have htwo : Url.parse "http://[::1]:2/" = .ok (root (some 2)) := by decide +kernel
  have hgiven : search.given? (configured "::nope") = some (.request (root none) 30) := by
    decide +kernel
  have hsame := (overrides browse).independent (configured "http://[::1]:1/")
    (configured "http://[::1]:2/") rfl ⟨_, hone⟩ ⟨_, htwo⟩
  exact ⟨⟨_, hone⟩, ⟨_, htwo⟩, hsame, ((overrides search).used _ _ hgiven).2 trivial⟩

/-- Not every setting that is overridden goes unnoticed: a session with an endpoint of its own
fails where the endpoint of the configuration is no URL. -/
theorem not_independent_of_endpoint :
    ¬ ∀ (a : Action) (s s' : Settings), a.strip s = a.strip s' → a.resolve s = a.resolve s' := by
  intro h
  have hsame := h (.browse (some "http://[::1]/")) (configured "http://[::1]:1/")
    (configured "::nope") rfl
  have hsession : (Action.browse (some "http://[::1]/")).resolve (configured "http://[::1]:1/") =
      .ok (.session ⟨root none, 350, true⟩ 30) := by decide +kernel
  have hproblem : (Action.browse (some "http://[::1]/")).resolve (configured "::nope") =
      .error (.endpoint "::nope") := by decide +kernel
  rw [hsession, hproblem] at hsame
  cases hsame

end ExtensionCatalogue.CommandLine
