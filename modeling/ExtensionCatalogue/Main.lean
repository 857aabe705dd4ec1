import ExtensionCatalogue.CommandLine.Run

/-!
# The program

The command line: files are read, lines are printed, and a session is driven by its input. There
is no connection to a network here, so every endpoint is unreachable and no address can be bound.
-/

namespace ExtensionCatalogue.CommandLine

def readFile? (path : String) : IO (Option (List UInt8)) := do
  try
    return some (← IO.FS.readBinFile path).toList
  catch _ => return none

def printLine : Line → IO Unit
  | .out text => IO.println text
  | .err text => IO.eprintln text

/-- Report a failure with everything inside it. -/
def printProblem (p : Problem) : IO Unit := do
  IO.eprintln p.headline
  let inner := p.contexts.drop 1
  if !inner.isEmpty then
    IO.eprintln "\nCaused by:"
    for text in inner do IO.eprintln ("    " ++ text)

def printReport (r : Report) : IO UInt32 := do
  for n in r.notices do IO.eprintln n.line
  for text in r.lines do IO.println text
  match r.result with
  | .ok () => return 0
  | .error p =>
    printProblem p
    return 1

/-- Drive a session until its input ends, firing searches while it waits for a line. -/
partial def browse (s : Session) : IO Unit := do
  let stdin ← IO.getStdin
  let line ← IO.asTask stdin.getLine
  let rec wait (s : Session) : IO Session := do
    if ← IO.hasFinished line then return s
    IO.sleep 1
    let (s, lines) := s.pass 1
    for l in lines do printLine l
    wait s
  let s ← wait s
  match line.get with
  | .error e => throw e
  | .ok text =>
    if text.isEmpty then return ()
    let (next?, lines) := s.enter text
    for l in lines do printLine l
    match next? with
    | some s => browse s
    | none => return ()

def runInvocation (i : Invocation) : IO UInt32 := do
  let config ← match i.config with
    | some path => readFile? path
    | none => pure none
  let known : Files := fun path => if i.config = some path then config else none
  let catalogue? := cataloguePath? known i
  let catalogue ← match catalogue? with
    | some path => readFile? path
    | none => pure none
  let files : Files := fun path => if catalogue? = some path then catalogue else known path
  match task files Client.offline i with
  | .report r => printReport r
  | .serve address _ =>
    printProblem (.bind address)
    return 1
  | .browse settings =>
    let (s, lines) := Session.start settings Client.offline
    for l in lines do printLine l
    browse s
    return 0

end ExtensionCatalogue.CommandLine

open ExtensionCatalogue.CommandLine in
def main (args : List String) : IO UInt32 := do
  match Invocation.ofWords args with
  | .ok i => runInvocation i
  | .error .help =>
    IO.println (greeting.headD "")
    return 0
  | .error .version =>
    IO.println (programName ++ " " ++ version)
    return 0
  | .error .misuse =>
    IO.eprintln ("error: see '" ++ programName ++ " --help'")
    return 2
