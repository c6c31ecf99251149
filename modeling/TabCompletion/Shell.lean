import TabCompletion.Completer
import TabCompletion.Settings

/-! # The interactive shell

The shell collects typed lines until they form a complete script, and runs it in the namespace that
the user is in. -/

namespace TabCompletion

open Dialogue

structure Shell where
  settings : Settings
  /-- Where scripts are run and words completed. -/
  scope : Scope
  /-- The lines of a script that is not finished yet. -/
  pending : List String
deriving DecidableEq

/-- Sources a script file, and notes it beforehand. -/
def Dialogue.source (path : Path) (interp : String) : Dialogue Value := do
  note (.sourcing path.text interp)
  request (.source path.text interp)

namespace Shell

def start (settings : Settings) : Shell :=
  ⟨settings, Scope.of (some settings.interp) (some settings.ns), []⟩

def completer (shell : Shell) : Completer :=
  Completer.of (shell.settings.systems.map .known)

/-- The edits offered for a text, in the scope that the shell is in. -/
def edits (shell : Shell) (text : String) : Dialogue (List Edit) :=
  shell.completer.edits shell.scope text

/-- The prompt names the namespace, or only marks that a script goes on. -/
def prompt (shell : Shell) : Fragment :=
  if shell.pending.isEmpty then ⟨.fresh, shell.scope.ns ++ " % "⟩ else ⟨.continuation, "> "⟩

/-! ## Starting up -/

/-- Does one thing at the start; a refusal is reported and does not stop the others. -/
def attempt (task : String) (act : Dialogue Value) : Dialogue Unit :=
  (Functor.mapConst () act).rescue fun r => print .error (task ++ ": " ++ r.reason)

def loadPackage (shell : Shell) (package : String) : Dialogue Unit :=
  attempt ("package require " ++ package) (request (.require package shell.scope.interp))

def runStartupScript (shell : Shell) (path : Path) : Dialogue Unit :=
  attempt ("source " ++ path.text) (Dialogue.source path shell.scope.interp)

/-- Loads the packages of the settings, and then runs the startup scripts. -/
def startUp (shell : Shell) : Dialogue Unit := do
  shell.settings.packages.forM shell.loadPackage
  shell.settings.startup.forM shell.runStartupScript

/-! ## Moving -/

/-- The full name of a namespace, if it exists as seen from the present one. -/
def findNamespace (shell : Shell) (name : String) : Dialogue (Option String) := do
  if ← shell.scope.query .flag ["::namespace", "exists", name] then
    some <$> shell.scope.query .value ["::namespace", "inscope", name, "::namespace current"]
  else
    return none

/-- Moves to a namespace that exists, or says why not. Without a name the present one is shown. -/
def enterNamespace (shell : Shell) (name : String) : Dialogue Shell := do
  if name = "" then
    print .plain shell.scope.ns
    return shell
  else
    let found ← (Except.ok <$> shell.findNamespace name).rescue fun r => do
      note (.namespaceSwitchFailed r)
      return Except.error r
    match found with
    | .ok (some qualified) => return { shell with scope := shell.scope.within (some qualified) }
    | .ok none =>
      print .error ("namespace " ++ name ++ " does not exist")
      return shell
    | .error r =>
      print .error r.reason
      return shell

/-! ## Running scripts -/

/-- The name of the command that moves to a namespace. -/
def moveCommand : String := ":ns"

/-- Where a script moves to, if it is a command of the shell itself. -/
def moveTarget? (script : String) : Option String :=
  match Text.firstPiece? script with
  | some (first, rest) => if first = moveCommand then some rest else none
  | none => none

/-- Has a script evaluated, and prints its result, if there is one, or what went wrong. -/
def evaluate (shell : Shell) (script : String) : Dialogue Unit := do
  let outcome ←
    (Except.ok <$> request (.evaluate shell.scope.interp shell.scope.ns script)).rescue fun r => do
      note (.evaluationFailed r)
      return Except.error r
  match outcome with
  | .ok result => if result = "" then return () else print .plain result
  | .error r => print .error r.reason

/-- Runs a complete script. -/
def execute (shell : Shell) (script : String) : Dialogue Shell :=
  match moveTarget? script with
  | some name => shell.enterNamespace name
  | none => do
    shell.evaluate script
    return shell

/-! ## Typing -/

/-- The shell after one more line of the script. -/
def typed (shell : Shell) (line : String) : Shell :=
  { shell with pending := shell.pending ++ [line] }

/-- The script that the pending lines make. -/
def script (shell : Shell) : String :=
  "\n".intercalate shell.pending

/-- The shell once its script has been taken away. -/
def emptied (shell : Shell) : Shell :=
  { shell with pending := [] }

/-- Adds a line to the script; the script is taken away when it is complete. -/
def enter (shell : Shell) (line : String) : Dialogue (Shell × Option String) := do
  let next := shell.typed line
  if ← request (.isComplete next.script) then return (next.emptied, some next.script)
  else return (next, none)

end Shell

end TabCompletion
