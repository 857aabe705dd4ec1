import ExtensionCatalogue.Sync.Controller
import ExtensionCatalogue.Url.Basic

/-!
# The controller at work

A machine is a controller together with what surrounds it: a clock, the queues of requests and of
completions, the handles through which requests come, and the calls on the transport that are
still open. Everything outside happens in between: requests are sent, calls report and answer,
time passes. `settle` then lets the controller handle what is queued, requests first, each queue
in its order, and fire a search whose deadline has been reached. When the last handle is gone and
no request is left, the controller ends; from then on nothing has an effect.
-/

namespace ExtensionCatalogue.Sync

structure Settings where
  endpoint : Url
  /-- The time from a search request to its search, in milliseconds. -/
  debounce : Nat
  /-- Whether everything is searched at the start. -/
  initialLoad : Bool
  deriving DecidableEq, Repr

inductive Phase where
  | running
  | ended
  | aborted
  deriving DecidableEq, Repr

structure Machine where
  settings : Settings
  state : State
  phase : Phase
  now : Nat
  commands : List Command
  completions : List Completion
  handles : Nat
  /-- The number of calls made so far, which is the number of the next one. -/
  calls : Nat
  opened : List (Nat × Call)

namespace Machine

/-- Give numbers to the calls among some effects. -/
def number (next : Nat) : List Effect → List (Nat × Call)
  | [] => []
  | .call c :: es => (next, c) :: number (next + 1) es
  | _ :: es => number next es

/-- The machine after a step of its controller. -/
def absorb (m : Machine) (s : State) (effects : List Effect) : Machine :=
  let calls := number m.calls effects
  { m with state := s, calls := m.calls + calls.length, opened := m.opened ++ calls }

/-- Let the controller handle an input. -/
def handle (m : Machine) (i : Input) : Machine × List Effect :=
  let (s, effects) := m.state.step m.settings.debounce i
  (m.absorb s effects, effects)

def handleAll (m : Machine) : List Input → Machine × List Effect
  | [] => (m, [])
  | i :: is =>
    let (m, effects) := m.handle i
    let (m, more) := handleAll m is
    (m, effects ++ more)

/-- Whether a search waits whose deadline has been reached. -/
def isDue (m : Machine) : Bool :=
  m.state.waiting.any (·.deadline ≤ m.now)

/-- The end of the controller, once no handle is left. -/
def stopIfDeserted (m : Machine) : Machine × List Effect :=
  if m.handles = 0 then
    ({ m with phase := .ended }, [.notice (.stopped m.state.pending.size)])
  else (m, [])

/-- Let the controller run until it has nothing to do. -/
def settle (m : Machine) : Machine × List Effect :=
  match m.phase with
  | .running =>
    let inputs := m.commands.map (.command · m.now) ++ m.completions.map .completion
    let (m, first) := { m with commands := [], completions := [] }.handleAll inputs
    let (m, second) := if m.isDue then m.handle .expiry else (m, [])
    let (m, third) := m.stopIfDeserted
    (m, first ++ second ++ third)
  | _ => ({ m with commands := [], completions := [] }, [])

/-- A new machine with one handle, its controller idle. -/
def start (settings : Settings) : Machine × List Effect :=
  let m : Machine := ⟨settings, .initial, .running, 0, [], [], 1, 0, []⟩
  if settings.initialLoad then
    let (s, effects) := m.state.fire ""
    (m.absorb s effects, effects)
  else (m, [])

def isRunning (m : Machine) : Bool := m.phase == .running

/-! ## What happens outside -/

/-- Send a request through a handle, if the controller accepts it. -/
def send (m : Machine) (c : Command) : Except Failure Machine :=
  if m.isRunning then .ok { m with commands := m.commands ++ [c] } else .error .stopped

/-- Copy a handle, if there is one. -/
def addHandle (m : Machine) : Machine :=
  if m.handles = 0 then m else { m with handles := m.handles + 1 }

def dropHandle (m : Machine) : Machine := { m with handles := m.handles - 1 }

def abort (m : Machine) : Machine :=
  match m.phase with
  | .running => { m with phase := .aborted }
  | _ => m

def advance (m : Machine) (ms : Nat) : Machine := { m with now := m.now + ms }

def call? (m : Machine) (n : Nat) : Option Call := m.opened.lookup n

def close (m : Machine) (n : Nat) : Machine :=
  { m with opened := m.opened.filter (·.1 ≠ n) }

/-- An open install reports percentages. -/
def report (m : Machine) (n : Nat) (percents : List Nat) : Machine :=
  match m.call? n with
  | some (.operation .install p) =>
    { m with completions := m.completions ++ percents.map (.progress p.id) }
  | _ => m

/-- An open search answers. -/
def replySearch (m : Machine) (n : Nat) (result : Except Failure (List Package)) : Machine :=
  match m.call? n with
  | some (.search generation keyword) =>
    { m.close n with completions := m.completions ++ [.search generation keyword result] }
  | _ => m

/-- An open operation answers. -/
def replyOperation (m : Machine) (n : Nat) (result : Except Failure Unit) : Machine :=
  match m.call? n with
  | some (.operation operation p) =>
    { m.close n with completions := m.completions ++ [.operation operation p.id p.name result] }
  | _ => m

end Machine

end ExtensionCatalogue.Sync
