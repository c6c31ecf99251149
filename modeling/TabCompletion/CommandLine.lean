import TabCompletion.CommandLine.Lookup
import TabCompletion.Journal
import TabCompletion.Screen.Columns
import TabCompletion.Settings.Load
import TabCompletion.Shell.History
import TabCompletion.Shell.Loop

/-! # The command line

A call of the program, from its arguments to what it prints and the status it ends with. The
interpreter is made only when the arguments and the settings are in order. -/

namespace TabCompletion

namespace CommandLine

/-- How a call ends. -/
inductive Ending
  | done (output : String)
  /-- The interpreter refused a command. -/
  | refused (r : Rejection)
  /-- The arguments are not understood. -/
  | misused
  | noScript (path : Path)
  /-- The settings are at fault. -/
  | badSettings (fault : LoadFault)
  /-- The settings could not be looked at. -/
  | noSettings (fault : LoadFault)
  /-- A file could not be used. -/
  | noFile (fault : FileFault)
  | failed (e : Failure)
  /-- The stem was printed, but the names cannot be shown. -/
  | unshown (output : String) (fault : Screen.Fault)
deriving DecidableEq, Repr

namespace Ending

/-- The exit status; nothing if the call was cut short by a failure that it does not deal with. -/
def status? : Ending → Option Nat
  | done _ => some 0
  | refused _ => some 1
  | misused => some 2
  | noScript _ => some 2
  | badSettings _ => some 2
  | noSettings _ => none
  | noFile _ => none
  | failed _ => none
  | unshown .. => none

def standardOutput : Ending → String
  | done output => output
  | unshown output _ => output
  | _ => ""

/-- What a refusal leaves on the error output; the wording of other complaints is free. -/
def standardError : Ending → String
  | refused r => Screen.withoutControlSequences ("Error: " ++ r.message) ++ "\n"
  | _ => ""

/-- What a wrong call is told. -/
def advice : Ending → String
  | noScript path => "Script not found: " ++ path.text
  | badSettings fault => fault.message
  | _ => "usage"

end Ending

/-- A call that has ended. -/
structure Result (σ : Type) where
  ending : Ending
  events : List Event
  /-- The interpreter, if one was made. -/
  interpreter : Option σ
  /-- The files as the call leaves them. -/
  files : Files.Tree
  /-- What was not read of the input. -/
  unread : List Keystroke

/-- A call that ended before an interpreter was made. -/
def Result.early {σ : Type} (ending : Ending) (files : Files.Tree) (input : List Keystroke) :
    Result σ :=
  ⟨ending, [], none, files, input⟩

/-! ## Lookups -/

/-- How a lookup ends that made an offer: as JSON, or as a line with the stem and the names in
columns below, as wide as the screen. -/
def offerEnding (screenWidth : Nat) (asJson : Bool) (offer : Offer) : Ending :=
  if asJson then .done (printedAsJson offer)
  else
    match Screen.display screenWidth offer.names with
    | .ok columns => .done (printedStem offer ++ columns)
    | .error fault => .unshown (printedStem offer) fault

def LookupOrder.ending (screenWidth : Nat) (order : LookupOrder) :
    Except Failure (Except Hindrance Offer) → Ending
  | .ok (.ok offer) => offerEnding screenWidth order.asJson offer
  | .ok (.error (.noScript path)) => .noScript path
  | .ok (.error (.refused r)) => .refused r
  | .error e => .failed e

variable {σ : Type} (host : Host σ) (fresh : Files.Tree → σ)

def runLookup (around : Surroundings) (input : List Keystroke) (order : LookupOrder) : Result σ :=
  let run := (order.carryOut around.files).run host (fresh around.files)
  ⟨order.ending around.screenWidth run.outcome, run.events, some run.state, around.files, input⟩

/-! ## The shell -/

/-- A debug log that is open: where it is, and what it held before. -/
structure OpenLog where
  place : Files.Place
  held : ByteArray

/-- Opens the debug log, making the directories on the way to it. -/
def openLog (files : Files.Tree) : Option Path → Except FileFault (Files.Tree × Option OpenLog)
  | none => .ok (files, none)
  | some path => do
    let grown ← files.ensureDirectories path.parent
    let (opened, place, held) ← grown.openAtEnd path
    return (opened, some ⟨place, held⟩)

/-- Writes a text to the end of an open log. -/
def OpenLog.write (files : Files.Tree) (text : String) : Option OpenLog → Files.Tree
  | none => files
  | some log => files.put log.place (.file (log.held ++ text.toUTF8))

/-- Runs the shell with settings that are in order; the time is written into the log. -/
def runShell (time : String) (settings : Settings) (logPath : Option Path) (files : Files.Tree)
    (input : List Keystroke) : Result σ :=
  match openLog files logPath with
  | .error fault => .early (.noFile fault) files input
  | .ok (files, log) =>
    match settings.prepareHistory files with
    | .error fault => ⟨.noFile fault, [], some (fresh files), files, input⟩
    | .ok files =>
      let run := (Shell.session settings input).run host (fresh files)
      let files := OpenLog.write files (journal time run.events) log
      match run.outcome with
      | .ok ending => ⟨.done "", run.events, some run.state, files, ending.unread⟩
      | .error e =>
        ⟨.failed e, run.events, some run.state, files, Shell.unreadAfter run.events input⟩

def runShellOrder (time : String) (around : Surroundings) (input : List Keystroke)
    (order : ShellOrder) : Result σ :=
  match Settings.load around order.config with
  | .error fault =>
    .early (if fault.isAboutSettings then .badSettings fault else .noSettings fault)
      around.files input
  | .ok settings =>
    runShell host fresh time settings (order.debugLog <|> settings.debugLog) around.files input

/-! ## Calls -/

/-- What the program says of itself. -/
def helpText : String :=
  "Commands:\n" ++
  "    commands <typed>                       Complete command names\n" ++
  "    vars <typed>                           Complete variable names\n" ++
  "    methods <system> <object> <typed>      Complete methods of an object\n" ++
  "    repl                                   Interactive shell\n"

/-- Runs the program with some arguments, in some surroundings, with some input. -/
def run (time : String) (around : Surroundings) (args : List String) (input : List Keystroke) :
    Result σ :=
  match order? args with
  | none => .early .misused around.files input
  | some .help => .early (.done helpText) around.files input
  | some (.lookUp order) => runLookup host fresh around input order
  | some (.shell order) => runShellOrder host fresh time around input order

end CommandLine

end TabCompletion
