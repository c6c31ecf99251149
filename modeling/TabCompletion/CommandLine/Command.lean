import TabCompletion.CommandLine.Options
import TabCompletion.Files.Path
import TabCompletion.ObjectSystem
import TabCompletion.Scope

/-! # The commands of the command line -/

namespace TabCompletion

namespace CommandLine

/-- What is looked up. -/
inductive Subject
  | commands (typed : String)
  | vars (typed : String)
  | methods (system : ObjectSystem) (receiver typed : String)
deriving DecidableEq, Repr

/-- A lookup in a fresh interpreter. -/
structure LookupOrder where
  subject : Subject
  interp : String
  ns : String
  /-- The scripts to run first, in order. -/
  scripts : List Path
  asJson : Bool
deriving DecidableEq, Repr

structure ShellOrder where
  config : Option Path
  debugLog : Option Path
deriving DecidableEq, Repr

inductive Order
  | lookUp (order : LookupOrder)
  | shell (order : ShellOrder)
  /-- Shows what there is to order. -/
  | help
deriving DecidableEq, Repr

/-! ## Options -/

inductive LookupOption
  | interp
  | ns
  | source
  | json
  | help
deriving DecidableEq, Repr

def lookupOptions : List (OptionSpec LookupOption) :=
  [⟨.interp, "--interp", some 'i', true⟩, ⟨.ns, "--ns", some 'n', true⟩,
    ⟨.source, "--source", some 's', true⟩, ⟨.json, "--json", none, false⟩,
    ⟨.help, "--help", none, false⟩]

inductive ShellOption
  | config
  | debugLog
  | help
deriving DecidableEq, Repr

def shellOptions : List (OptionSpec ShellOption) :=
  [⟨.config, "--config", some 'c', true⟩, ⟨.debugLog, "--debug-log", none, true⟩,
    ⟨.help, "--help", none, false⟩]

/-! ## Orders -/

/-- The subject that a command and its positional arguments name. -/
def subject? : String → List String → Option Subject
  | "commands", [typed] => some (.commands typed)
  | "vars", [typed] => some (.vars typed)
  | "methods", [system, receiver] =>
    (ObjectSystem.ofName? system).map fun system => .methods system receiver ""
  | "methods", [system, receiver, typed] =>
    (ObjectSystem.ofName? system).map fun system => .methods system receiver typed
  | _, _ => none

/-- The path that the value of an option names; a NUL character can stand in none. -/
def pathValue? (value : String) : Option Path :=
  if value.toList.contains '\x00' then none else some (Path.ofString value)

def lookupOrder? (command : String) (args : List String) : Option Order := do
  let given ← sortOut lookupOptions args
  if given.has .help then
    return .help
  else
    let subject ← subject? command given.positional
    let scripts ← (given.values .source).mapM pathValue?
    return .lookUp {
      subject
      interp := (given.last? .interp).getD ""
      ns := (given.last? .ns).getD Namespace.root
      scripts
      asJson := given.has .json }

def shellOrder? (args : List String) : Option Order := do
  let given ← sortOut shellOptions args
  if given.has .help then
    return .help
  else if given.positional.isEmpty then
    let config ← (given.last? .config).mapM pathValue?
    let debugLog ← (given.last? .debugLog).mapM pathValue?
    return .shell ⟨config, debugLog⟩
  else
    none

def orderNamed? (command : String) (args : List String) : Option Order :=
  if ["commands", "vars", "methods"].contains command then lookupOrder? command args
  else if command = "repl" then shellOrder? args
  else none

/-- Whether an argument before the command is read as an option. -/
def isOption (argument : String) : Bool :=
  Text.beginsWith "-" argument && argument ≠ "-" && argument ≠ "--"

/-- What the arguments order; nothing if they are not understood. Before the command only the
separator and the option for help can stand. -/
def order? : List String → Option Order
  | "--help" :: rest => if (rest.takeWhile isOption).all (· == "--help") then some .help else none
  | "--" :: command :: args => orderNamed? command args
  | command :: args => orderNamed? command args
  | [] => none

end CommandLine

end TabCompletion
