import TabCompletion.Namespace
import TabCompletion.ObjectSystem
import TabCompletion.Settings.Checked

/-! # Settings -/

namespace TabCompletion

/-- The settings of a completer and of the shell around it. -/
structure Settings where
  /-- The path of the interpreter to work in. -/
  interp : String := ""
  /-- The namespace to start in. -/
  ns : String := Namespace.root
  /-- The object systems to try, in order. -/
  systems : List ObjectSystem := ObjectSystem.usual
  /-- Packages to load at the start. -/
  packages : List String := []
  /-- Scripts to run at the start. -/
  startup : List Path := []
  history : Option Path := none
  debugLog : Option Path := none
deriving DecidableEq

namespace Settings

def path? (data : Data) : Option Path :=
  Path.ofString <$> data.text?

/-- A path, or nothing where nothing is given. -/
def optionalPath? : Data → Option (Option Path)
  | .null => some none
  | data => some <$> path? data

def system? (data : Data) : Option ObjectSystem :=
  data.text? >>= ObjectSystem.ofName?

/-- The value of a field, or its default if it is absent. -/
def field {α : Type} (entries : List (String × Data)) (name : String) (default : α)
    (check : String → Data → Checked α) : Checked α :=
  match entries.lookup name with
  | none => .good default
  | some data => check name data

/-- Paths with their home directories. The first one that has none ends it, so that the list as a
whole is then at fault. -/
def startupPaths (homes : Homes) (name : String) (data : Data) : Checked (List Path) :=
  (Checked.list path? .path name data |>.map fun paths =>
    paths.mapM (Path.expand homes)).housed name

def singlePath (homes : Homes) (name : String) (data : Data) : Checked (Option Path) :=
  (Checked.value optionalPath? .path name data |>.map fun path =>
    path.mapM (Path.expand homes)).housed name

/-- Settings read from a table: absent fields have their defaults, fields of other names are
ignored. -/
def ofTable (homes : Homes) (entries : List (String × Data)) : Checked Settings :=
  Settings.mk
    <$> field entries "interp" "" (.value Data.text? .text)
    <*> field entries "namespace" Namespace.root
      (fun name data =>
        (fun ns => Namespace.orRoot (some ns)) <$> Checked.value Data.text? .text name data)
    <*> field entries "object_systems" ObjectSystem.usual (.list system? .systemName)
    <*> field entries "packages" [] (.list Data.text? .text)
    <*> field entries "startup" [] (startupPaths homes)
    <*> field entries "history_file" none (singlePath homes)
    <*> field entries "debug_log" none (singlePath homes)

def ofData (homes : Homes) : Data → Checked Settings
  | .table entries => ofTable homes entries
  | _ => .bad [⟨none, none, .table⟩]

end Settings

end TabCompletion
