import ExtensionCatalogue.CommandLine.Report
import ExtensionCatalogue.Sync.Machine

/-!
# Sessions

An interactive session: each line of input is a keyword, or after a colon a command, and each
event of the controller is printed. The network answers every call at once.
-/

namespace ExtensionCatalogue.CommandLine

open Sync (Machine Effect Call)

structure Session where
  machine : Machine
  network : Client.Network

/-- What a line of input asks for. -/
inductive Entry where
  | quit
  | command (c : Sync.Command)
  | usage
  deriving DecidableEq, Repr

/-- The request of a line. A command takes the first word after its name. -/
def Entry.ofLine (line : String) : Entry :=
  match Text.trimChars line.toList with
  | ':' :: cs =>
    match (Text.words cs).map String.ofList with
    | "quit" :: _ | "q" :: _ => .quit
    | "install" :: id :: _ => .command (.operate .install id)
    | "uninstall" :: id :: _ => .command (.operate .uninstall id)
    | _ => .usage
  | cs => .command (.search (String.ofList cs))

def usageLine : String := "Commands: :install ID, :uninstall ID, :quit"

def greetingLine : String := "Type to search. " ++ usageLine

namespace Session

/-- The lines of the events among some effects. -/
def lines (effects : List Effect) : List Line :=
  effects.flatMap fun
    | .event e => eventLines e
    | _ => []

/-- The machine after the network has answered one open call. -/
def answerCall (network : Client.Network) (m : Machine) : Nat × Call → Machine
  | (n, .search _ keyword) =>
    m.replySearch n ((Client.search network m.settings.endpoint keyword).map (·.packages))
  | (n, .operation o p) =>
    let (percents, result) := Client.operate network m.settings.endpoint o p.id
    (m.report n percents).replyOperation n result

/-- Let the controller run and the network answer. Answers make no further calls. -/
def settle (s : Session) : Session × List Line :=
  let (m, first) := s.machine.settle
  let (m, second) := (m.opened.foldl (answerCall s.network) m).settle
  ({ s with machine := m }, lines (first ++ second))

/-- A session at its start. -/
def start (settings : Sync.Settings) (network : Client.Network) : Session × List Line :=
  let (m, first) := Machine.start settings
  let (s, more) := Session.settle ⟨m, network⟩
  (s, .out greetingLine :: lines first ++ more)

/-- A line of input. The session ends where there is no next one. -/
def enter (s : Session) (line : String) : Option Session × List Line :=
  match Entry.ofLine line with
  | .quit => (none, [])
  | .usage => (some s, [.out usageLine])
  | .command c =>
    match s.machine.send c with
    | .ok machine =>
      let (s, lines) := Session.settle { s with machine }
      (some s, lines)
    | .error _ => (none, [])

/-- The time until the search that waits, if one does. -/
def untilNext (s : Session) : Option Nat :=
  s.machine.state.waiting.map (·.deadline - s.machine.now)

/-- Time passes. -/
def pass (s : Session) (ms : Nat) : Session × List Line :=
  Session.settle { s with machine := s.machine.advance ms }

end Session

end ExtensionCatalogue.CommandLine
