import TabCompletion.CommandLine
import TabCompletion.World.Host

/-! # The program

The command line over a world that is empty at first and filled by the scripts that are run. All
that is decided is decided in the modules imported here; this one reads and prints. -/

namespace TabCompletion

namespace Program

/-- Adds a file or directory of the disk to a tree, if there is one at the path. -/
def addFromDisk (tree : Files.Tree) (path : Path) : IO Files.Tree := do
  try
    let content ← IO.FS.readBinFile path.text
    return tree.withFile path content
  catch
    | .noFileOrDirectory .. => return tree
    | _ =>
      match tree.ensureDirectories path with
      | .ok grown => return grown
      | .error _ => return tree

/-- The text of a file of the machine, or nothing if there is none to be read. -/
def machineText (path : String) : IO String := do
  try
    IO.FS.readFile path
  catch _ => return ""

/-- The number of the account that runs the program, as the machine tells it. -/
def accountNumber : IO String := do
  let status ← machineText "/proc/self/status"
  let columns := (status.splitOn "\n").map Text.pieces
  return (columns.findSome? fun
    | "Uid:" :: number :: _ => some number
    | _ => none).getD ""

def homes : IO Homes := do
  let named ← IO.getEnv "HOME"
  let accounts := ((← machineText "/etc/passwd").splitOn "\n").filterMap Account.ofLine?
  return Homes.ofAccounts named (← accountNumber) accounts

/-- The surroundings of a call, without any files. -/
def surroundings : IO Surroundings := do
  let homes ← homes
  let configVariable ← IO.getEnv "TCLCOMPLETE_CONFIG"
  let around : Surroundings := { homes, configVariable, files := .empty }
  return match (← IO.getEnv "COLUMNS").bind Screen.cellCount? with
    | some screenWidth => { around with screenWidth }
    | none => around

/-- The surroundings of a call with the files that it will look at: those that an order names, and
those that the settings name. -/
def withFiles (around : Surroundings) : CommandLine.Order → IO Surroundings
  | .help => return around
  | .lookUp order => do
    let files ← order.scripts.foldlM addFromDisk around.files
    return { around with files }
  | .shell order => do
    match Settings.location around order.config with
    | .error _ => return around
    | .ok (path, _) =>
      let files ← addFromDisk around.files path
      match Settings.load { around with files } order.config with
      | .error _ => return { around with files }
      | .ok settings =>
        let files ← settings.startup.foldlM addFromDisk files
        return { around with files }

def host : Host (Linked World) :=
  World.linkedHost

def fresh (files : Files.Tree) : Linked World :=
  World.linked { files }

/-! ## Showing -/

def display (output : Output) : IO Unit :=
  match output with
  | .printed fragment => IO.println fragment.text
  | _ => return ()

/-- The time since the start of the call, as hours, minutes and seconds. -/
def clock (start : Nat) : IO String := do
  let seconds := ((← IO.monoMsNow) - start) / 1000
  let two := fun n : Nat => (if n < 10 then "0" else "") ++ toString n
  return two (seconds / 3600) ++ ":" ++ two (seconds / 60 % 60) ++ ":" ++ two (seconds % 60)

/-- Adds the notes of a part of the session to the debug log. -/
def log (path : Option Path) (time : String) (events : List Event) : IO Unit := do
  match path, journal time events with
  | none, _ => return ()
  | some _, "" => return ()
  | some path, text =>
    let handle ← IO.FS.Handle.mk path.text .append
    handle.putStr text

/-! ## The shell -/

/-- Responds to lines until the session ends. -/
partial def interact (start : Nat) (logPath : Option Path) (shell : Shell) (state : Linked World) :
    IO Unit := do
  IO.print shell.prompt.text
  (← IO.getStdout).flush
  let line ← (← IO.getStdin).getLine
  let typed := String.ofList (line.toList.filter (· ≠ '\n'))
  let keystroke := if line = "" then .leave else .line typed
  let run := (shell.respond keystroke).run host state
  (run.events.filterMap Event.shown?).forM display
  log logPath (← clock start) run.events
  match run.outcome with
  | .ok (some next) => interact start logPath next run.state
  | .ok none => return ()
  | .error e => IO.eprintln e.message

/-- Runs the shell; the directories that it needs are made on the disk. -/
def runShell (around : Surroundings) (settings : Settings) (logPath : Option Path) : IO Unit := do
  for path in logPath.toList ++ settings.history.toList do
    IO.FS.createDirAll path.parent.text
  let start ← IO.monoMsNow
  let shell := Shell.start settings
  let run := shell.startUp.run host (fresh around.files)
  (run.events.filterMap Event.shown?).forM display
  log logPath (← clock start) run.events
  match run.outcome with
  | .ok _ => interact start logPath shell run.state
  | .error e => IO.eprintln e.message

/-- The settings with which a shell is to be run, if that is ordered and they are in order. -/
def shellSettings? (around : Surroundings) :
    Option CommandLine.Order → Option (Settings × Option Path)
  | some (.shell order) =>
    match Settings.load around order.config with
    | .ok settings => some (settings, order.debugLog <|> settings.debugLog)
    | .error _ => none
  | _ => none

/-- Prints what a call that has ended leaves behind, and answers its exit status. -/
def finish (ending : CommandLine.Ending) : IO UInt32 := do
  IO.print ending.standardOutput
  IO.eprint ending.standardError
  match ending.status? with
  | some 2 =>
    IO.eprintln ending.advice
    return 2
  | some status => return status.toUInt32
  | none => return 1

end Program

end TabCompletion

open TabCompletion Program in
def main (args : List String) : IO UInt32 := do
  let around ← surroundings
  let order := CommandLine.order? args
  let around ← (order.map (withFiles around)).getD (pure around)
  match shellSettings? around order with
  | some (settings, logPath) =>
    runShell around settings logPath
    return 0
  | none => finish (CommandLine.run host fresh "" around args []).ending
