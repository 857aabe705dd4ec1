import ExtensionCatalogue.Registry
import ExtensionCatalogue.Sync.Event
import ExtensionCatalogue.Sync.Pending
import ExtensionCatalogue.Text.Blank

/-!
# The sync controller

The controller owns the registry and decides what the catalogue is asked. It is a function from a
state and an input to the next state and its effects, in order: calls on the transport, events
and notices.

A search request only sets a deadline; the search is fired when the deadline passes. Each fired
search has a generation, and a reply counts only if its generation is the latest. An operation
that succeeds while a search is under way is remembered with the generation of its completion, so
that a response that may be older does not undo it.
-/

namespace ExtensionCatalogue.Sync

/-- What a user asks for. -/
inductive Command where
  | search (keyword : String)
  | operate (operation : Operation) (id : String)
  deriving DecidableEq, Repr

/-- What a call on the transport reports. -/
inductive Completion where
  | search (generation : Nat) (keyword : String) (result : Except Failure (List Package))
  | progress (id : String) (percent : Nat)
  | operation (operation : Operation) (id name : String) (result : Except Failure Unit)

inductive Input where
  | command (c : Command) (now : Nat)
  | completion (c : Completion)
  /-- The deadline of the waiting search has passed. -/
  | expiry

/-- A call on the transport. -/
inductive Call where
  | search (generation : Nat) (keyword : String)
  | operation (operation : Operation) (package : Package)
  deriving DecidableEq, Repr

inductive Effect where
  | call (c : Call)
  | event (e : Event)
  | notice (n : Notice)
  deriving DecidableEq, Repr

/-- A search that waits for its deadline. -/
structure Waiting where
  deadline : Nat
  keyword : String
  deriving DecidableEq, Repr

/-- The flag that an operation left behind and the generation that was latest then. -/
structure Outcome where
  installed : Bool
  generation : Nat
  deriving DecidableEq, Repr

structure State where
  registry : Registry
  pending : Pending
  confirmed : Table Outcome
  generation : Nat
  waiting : Option Waiting
  deriving DecidableEq, Repr

namespace State

def initial : State := ⟨.empty, .empty, .empty, 0, none⟩

instance : Inhabited State := ⟨initial⟩

/-- Start a search for the keyword without its outer blanks. -/
def fire (s : State) (keyword : String) : State × List Effect :=
  let generation := s.generation + 1
  let keyword := Text.trim keyword
  ({ s with generation },
    [.notice (.searchFired keyword generation), .event (.status .searching),
      .call (.search generation keyword)])

/-- The event that carries both views. -/
def published (r : Registry) : Effect :=
  .event (.registryChanged r.views.1 r.views.2)

/-- A package of the response to search `generation`, with the flag of an operation that may be
more recent than the response. -/
def reconcile (s : State) (generation : Nat) (p : Package) : Package :=
  match s.confirmed.get? p.id with
  | some o => if generation ≤ o.generation then { p with installed := o.installed } else p
  | none => p

/-- Put the response to search `generation` into the registry. -/
def replace (s : State) (generation : Nat) (packages : List Package) : State × List Effect :=
  let (registry, notices) := Registry.ofPackages (packages.map (s.reconcile generation))
  let confirmed := s.confirmed.filter (generation < ·.generation)
  ({ s with registry, confirmed }, notices.map .notice ++ [published registry])

/-- The reply to a search. -/
def applySearch (s : State) (generation : Nat) (keyword : String)
    (result : Except Failure (List Package)) : State × List Effect :=
  if generation ≠ s.generation then
    (s, [.notice (.searchStale keyword generation s.generation)])
  else
    match result with
    | .ok packages =>
      let (s, effects) := s.replace generation packages
      (s, effects ++ [.event (.status (.found s.registry.size))])
    | .error (.unreadable cause) =>
      let (s, effects) := s.replace generation []
      (s, .notice (.searchUnreadable keyword cause) ::
        (effects ++ [.event (.status (.unreadable cause))]))
    | .error failure =>
      (s, [.notice (.searchFailed keyword failure), .event (.status (.searchFailed failure))])

/-- A request to install or uninstall. It is ignored when the package is busy, unknown or already
in the requested state. -/
def begin (s : State) (operation : Operation) (id : String) : State × List Effect :=
  match s.pending.get? id with
  | some running => (s, [.notice (.ignoredBusy operation id running.operation)])
  | none =>
    match s.registry.get? id with
    | none => (s, [.notice (.ignoredUnknown operation id)])
    | some p =>
      if p.installed = operation.target then (s, [.notice (.ignoredInPlace operation id)])
      else
        ({ s with pending := (s.pending.begin? id operation).getD s.pending },
          [.notice (.started operation id), .event (.status (.started operation p.name)),
            .call (.operation operation p)])

/-- The result of an operation. -/
def finish (s : State) (operation : Operation) (id name : String)
    (result : Except Failure Unit) : State × List Effect :=
  let (running?, pending) := s.pending.finish id
  let unexpected : List Effect :=
    if running?.isSome then [] else [.notice (.unexpected operation id)]
  let s := { s with pending }
  match result with
  | .ok () =>
    let (registry, change) := match s.registry.setInstalled? id operation.target with
      | some registry => (registry, published registry)
      | none => (s.registry, .notice (.departed operation id))
    ({ s with
        registry
        confirmed := s.confirmed.insert id ⟨operation.target, s.generation⟩ },
      unexpected ++ [.notice (.finished operation id), change,
        .event (.status (.done operation name))])
  | .error failure =>
    (s, unexpected ++ [.notice (.failed operation id failure),
      .event (.status (.failed operation name failure))])

def handleCommand (debounce now : Nat) (s : State) : Command → State × List Effect
  | .search keyword => ({ s with waiting := some ⟨now + debounce, keyword⟩ }, [])
  | .operate operation id => s.begin operation id

def handleCompletion (s : State) : Completion → State × List Effect
  | .search generation keyword result => s.applySearch generation keyword result
  | .progress id percent =>
    match s.pending.advance? id percent with
    | some (shown, pending) => ({ s with pending }, [.event (.progress id shown)])
    | none => (s, [])
  | .operation operation id name result => s.finish operation id name result

/-- Fire the search that waits, if there is one. -/
def expire (s : State) : State × List Effect :=
  match s.waiting with
  | some w => { s with waiting := none }.fire w.keyword
  | none => (s, [])

/-- One input, with `debounce` from a search request to its deadline. -/
def step (debounce : Nat) (s : State) : Input → State × List Effect
  | .command c now => s.handleCommand debounce now c
  | .completion c => s.handleCompletion c
  | .expiry => s.expire

end State

end ExtensionCatalogue.Sync
