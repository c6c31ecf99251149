import TabCompletion.Files.Tree
import TabCompletion.Program
import TabCompletion.Settings
import TabCompletion.Toml.Document

/-! # Loading the settings

The settings come from a TOML file: one that is named, or one at the usual place. Only the latter
may be missing. -/

namespace TabCompletion

/-- What a program finds around it. -/
structure Surroundings where
  homes : Homes
  /-- The value of the variable that names the file of the settings. -/
  configVariable : Option String
  files : Files.Tree
  /-- How many cells a line of the screen has. -/
  screenWidth : Nat := 80

/-- Why there are no settings. -/
inductive LoadFault
  /-- The file that was named does not exist. -/
  | missing (path : Path)
  | malformed (path : Path)
  | invalid (path : Path) (complaints : List Complaint)
  | homeless
  | file (fault : FileFault)
  | numberTooLong
  | tooDeep
deriving DecidableEq, Repr

/-- A path that cannot be expanded is a fault of the path if it could not even be looked up. -/
def LoadFault.ofHome : HomeFault → LoadFault
  | .unknown => homeless
  | .holdsNul => file .holdsNul

/-- What a user is told. For a file that was found it is its path, before what is wrong in it. -/
def LoadFault.message : LoadFault → String
  | missing path => "config file not found: " ++ path.text
  | malformed path => path.text
  | invalid path _ => path.text
  | homeless => "Could not determine home directory."
  | file fault => fault.message
  | numberTooLong => "a number has too many digits"
  | tooDeep => "maximum recursion depth exceeded"

/-- Whether the settings themselves are at fault, and not what the program finds around it. -/
def LoadFault.isAboutSettings : LoadFault → Bool
  | missing _ => true
  | malformed _ => true
  | invalid .. => true
  | _ => false

namespace Settings

/-- Where the file is if none is named. -/
def usualPath : Path :=
  Path.ofString ("~/.config/" ++ programName ++ "/config.toml")

def expand (homes : Homes) (path : Path) : Except LoadFault Path :=
  (path.expand homes).mapError .ofHome

/-- Which file to read, and whether it was named: a path that is given comes first, then the
variable unless it is empty. -/
def location (around : Surroundings) (path : Option Path) : Except LoadFault (Path × Bool) :=
  match path, around.configVariable with
  | some path, _ => return (← expand around.homes path, true)
  | none, some named =>
    if named = "" then return (← expand around.homes usualPath, false)
    else return (← expand around.homes (Path.ofString named), true)
  | none, none => return (← expand around.homes usualPath, false)

/-- The table of a document that holds the settings: one of its own, or the whole document. -/
def settingsOf (document : Toml.Table) : Data :=
  (document.lookup programName).getD (.table document)

/-- Settings from the text of a file. -/
def ofText (homes : Homes) (path : Path) (text : String) : Except LoadFault Settings :=
  match Toml.document text with
  | .error .malformed => .error (.malformed path)
  | .error .numberTooLong => .error .numberTooLong
  | .error .tooDeep => .error .tooDeep
  | .ok document =>
    match ofData homes (settingsOf document) with
    | .good settings => .ok settings
    | .bad complaints => .error (.invalid path complaints)
    | .homeless => .error .homeless

def load (around : Surroundings) (path : Option Path) : Except LoadFault Settings := do
  let (resolved, named) ← location around path
  match around.files.present resolved with
  | .error fault => .error (.file fault)
  | .ok false => if named then .error (.missing resolved) else .ok {}
  | .ok true =>
    match around.files.read resolved with
    | .error fault => .error (.file fault)
    | .ok text => ofText around.homes resolved text

end Settings

end TabCompletion
