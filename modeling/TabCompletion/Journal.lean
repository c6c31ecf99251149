import TabCompletion.Program
import TabCompletion.Transcript

/-! # The debug log

Every note of a session becomes one entry of the log: the time, the channel it belongs to, and the
message. -/

namespace TabCompletion

namespace Kind

/-- The word for a query in the log. -/
def verb : Kind → String
  | names => "eval_in"
  | flag => "eval_bool"
  | value => "eval_value"

end Kind

namespace Note

/-- The part of the program that a note is about. -/
def topic : Note → String
  | asking .. => "context"
  | elementsFound .. => "resolver"
  | systemUnsupported _ => "methods"
  | systemUnknown _ => "methods"
  | completionFailed _ => "repl.complete"
  | evaluationFailed _ => "repl.shell"
  | namespaceSwitchFailed _ => "repl.shell"
  | sourcing .. => "tcl"

/-- The main interpreter has no path, and is shown as an empty list. -/
def shownInterp (interp : String) : String :=
  if interp = "" then "\x7b\x7d" else interp

def message : Note → String
  | asking kind call =>
    kind.verb ++ " " ++ shownInterp call.interp ++ " " ++ call.ns ++ ": "
      ++ Text.quotedTuple call.words
  | elementsFound array count typed =>
    "array " ++ array ++ ": " ++ toString count ++ " elements match " ++ Text.quoted typed
  | systemUnsupported system => "method lookup not supported for " ++ system.name
  | systemUnknown name => "unknown object system " ++ Text.quoted name
  | completionFailed r => "completion failed: " ++ r.message
  | evaluationFailed r => "evaluation failed: " ++ r.message
  | namespaceSwitchFailed r => "namespace switch failed: " ++ r.message
  | sourcing path interp => "source " ++ path ++ " into " ++ shownInterp interp

/-- A note as it is written to the log, without a line end. -/
def line (time : String) (note : Note) : String :=
  time ++ " [" ++ programName ++ "." ++ note.topic ++ "] " ++ note.message

end Note

/-- What a session adds to the debug log. -/
def journal (time : String) (events : List Event) : String :=
  String.join ((events.filterMap Event.note?).map fun note => note.line time ++ "\n")

end TabCompletion
