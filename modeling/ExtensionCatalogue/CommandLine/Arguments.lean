import ExtensionCatalogue.Net.SocketAddress
import ExtensionCatalogue.Operation

/-!
# Arguments

The words of a command line: options before and after the name of a command, and the operands of
the command. An option has a value, which follows it as the next word or stands in the same word;
a following word that starts with a dash is no value. After `--` every word is an operand.
-/

namespace ExtensionCatalogue.CommandLine

/-- What a user asks for. -/
inductive Action where
  | greet
  | serve (bind : Option SocketAddress) (catalogue : Option String)
  | search (keyword : String) (endpoint : Option String)
  | operate (o : Operation) (id : String) (endpoint : Option String)
  | browse (endpoint : Option String)
  deriving DecidableEq, Repr

structure Invocation where
  config : Option String
  action : Action
  deriving DecidableEq, Repr

/-- Why there is nothing to run. -/
inductive Stop where
  | help
  | version
  | misuse
  deriving DecidableEq, Repr

/-- An option with a value that has to satisfy a condition. -/
structure Setting where
  letter : Char
  hasLetter : Bool
  name : String
  isValue : String → Bool

def configSetting : Setting := ⟨'c', true, "config", (!·.isEmpty)⟩

def bindSetting : Setting := ⟨'b', true, "bind", fun v => (SocketAddress.ofString? v).isSome⟩

def catalogueSetting : Setting := ⟨' ', false, "catalogue", (!·.isEmpty)⟩

def endpointSetting : Setting := ⟨'e', true, "endpoint", fun _ => true⟩

/-- What a command accepts. -/
structure Grammar where
  settings : List Setting
  hasVersion : Bool
  operands : Nat

/-- The values of options by name, and the operands in order. -/
structure Words where
  values : List (String × String)
  operands : List String
  deriving DecidableEq, Repr

namespace Words

def empty : Words := ⟨[], []⟩

def value? (w : Words) (name : String) : Option String := w.values.lookup name

/-- The words with a value for an option that has none yet. -/
def set (w : Words) (s : Setting) (value : String) : Except Stop Words :=
  if (w.value? s.name).isSome || !s.isValue value then .error .misuse
  else .ok { w with values := (s.name, value) :: w.values }

def addOperand (w : Words) (g : Grammar) (word : String) : Except Stop Words :=
  if w.operands.length < g.operands then .ok { w with operands := w.operands ++ [word] }
  else .error .misuse

end Words

/-- A word by its form. -/
inductive Form where
  | operand
  /-- The word `--`, which ends the options. -/
  | escape
  | long (name : String) (value : Option String)
  | letters (cs : List Char)

def Form.ofWord (word : String) : Form :=
  match word.toList with
  | ['-', '-'] => .escape
  | '-' :: '-' :: cs =>
    match cs.span (· ≠ '=') with
    | (name, _ :: value) => .long (String.ofList name) (some (String.ofList value))
    | (name, []) => .long (String.ofList name) none
  | '-' :: c :: cs => .letters (c :: cs)
  | _ => .operand

/-- What a word with a dash means: it stops, sets an option, or leaves its value to the next
word. -/
inductive Meaning where
  | set (s : Setting) (value : String)
  | expect (s : Setting)

/-- The meaning of an option by name. -/
def longMeaning (g : Grammar) (name : String) (value : Option String) : Except Stop Meaning :=
  if name = "help" ∧ value.isNone then .error .help
  else if name = "version" ∧ g.hasVersion ∧ value.isNone then .error .version
  else
    match g.settings.find? (·.name == name), value with
    | some s, some v => .ok (.set s v)
    | some s, none => .ok (.expect s)
    | none, _ => .error .misuse

/-- The meaning of an option by letter. The letters after it are its value. -/
def letterMeaning (g : Grammar) : List Char → Except Stop Meaning
  | [] => .error .misuse
  | c :: cs =>
    if c = 'h' then .error .help
    else if c = 'V' ∧ g.hasVersion then .error .version
    else
      match g.settings.find? fun s => s.hasLetter && s.letter == c with
      | none => .error .misuse
      | some s =>
        match cs with
        | [] => .ok (.expect s)
        | '=' :: value => .ok (.set s (String.ofList value))
        | value => .ok (.set s (String.ofList value))

/-- Read words up to the first operand if `stopAtOperand`, else to the end. The rest starts with
that operand. An `expected` option takes the next word as its value. -/
def readWords (g : Grammar) (stopAtOperand : Bool) (w : Words) (expected : Option Setting) :
    List String → Except Stop (Words × List String)
  | [] => if expected.isSome then .error .misuse else .ok (w, [])
  | word :: rest =>
    match expected, Form.ofWord word with
    | some s, .operand => do readWords g stopAtOperand (← w.set s word) none rest
    | some _, _ => .error .misuse
    | none, .operand =>
      if stopAtOperand then .ok (w, word :: rest)
      else do readWords g stopAtOperand (← w.addOperand g word) none rest
    | none, .escape => do
      let w ← rest.foldlM (fun w word => w.addOperand g word) w
      return (w, [])
    | none, .long name value => do
      match ← longMeaning g name value with
      | .set s v => readWords g stopAtOperand (← w.set s v) none rest
      | .expect s => readWords g stopAtOperand w (some s) rest
    | none, .letters cs => do
      match ← letterMeaning g cs with
      | .set s v => readWords g stopAtOperand (← w.set s v) none rest
      | .expect s => readWords g stopAtOperand w (some s) rest

/-- The options before the command. -/
def rootGrammar : Grammar := ⟨[configSetting], true, 0⟩

/-- What the command of a name accepts. -/
def grammarOf? (name : String) : Option Grammar :=
  match name with
  | "serve" => some ⟨[bindSetting, catalogueSetting, configSetting], false, 0⟩
  | "search" => some ⟨[endpointSetting, configSetting], false, 1⟩
  | "install" => some ⟨[endpointSetting, configSetting], false, 1⟩
  | "uninstall" => some ⟨[endpointSetting, configSetting], false, 1⟩
  | "browse" => some ⟨[endpointSetting, configSetting], false, 0⟩
  | _ => none

/-- The action of a command with its words. -/
def Action.ofWords? (name : String) (w : Words) : Option Action :=
  let endpoint := w.value? "endpoint"
  match name, w.operands with
  | "serve", [] =>
    some (.serve ((w.value? "bind").bind SocketAddress.ofString?) (w.value? "catalogue"))
  | "search", [] => some (.search "" endpoint)
  | "search", [keyword] => some (.search keyword endpoint)
  | "install", [id] => some (.operate .install id endpoint)
  | "uninstall", [id] => some (.operate .uninstall id endpoint)
  | "browse", [] => some (.browse endpoint)
  | _, _ => none

/-- What a command line asks for. The configuration may be named before the command or after it,
and the latter counts. -/
def Invocation.ofWords (words : List String) : Except Stop Invocation := do
  let (root, rest) ← readWords rootGrammar true .empty none words
  match rest with
  | [] => return ⟨root.value? "config", .greet⟩
  | name :: rest =>
    match grammarOf? name with
    | none =>
      if name = "help" ∧ rest.all (fun word => (grammarOf? word).isSome || word = "help") then
        throw .help
      else throw .misuse
    | some g =>
      let (w, _) ← readWords g false .empty none rest
      match Action.ofWords? name w with
      | some action => return ⟨(w.value? "config") <|> (root.value? "config"), action⟩
      | none => throw .misuse

end ExtensionCatalogue.CommandLine
