import TabCompletion.Files.Tree
import TabCompletion.Settings

/-! # The history of typed lines -/

namespace TabCompletion

/-- Where the lines typed in earlier sessions are kept. -/
inductive History
  | inMemory
  | inFile (path : Path)
deriving DecidableEq

namespace Settings

def historyKept (settings : Settings) : History :=
  match settings.history with
  | none => .inMemory
  | some path => .inFile path

/-- Makes the directory in which the history is kept, if it is kept in a file. -/
def prepareHistory (settings : Settings) (files : Files.Tree) : Except FileFault Files.Tree :=
  match settings.historyKept with
  | .inMemory => .ok files
  | .inFile path => files.ensureDirectories path.parent

end Settings

end TabCompletion
