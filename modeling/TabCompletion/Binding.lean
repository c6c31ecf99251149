import TabCompletion.Request
import TabCompletion.Text.Blank

/-! # The embedding of an interpreter

A binding calls the interpreter with the words of a command, which may be nested lists, and hands
over its result. Results are handed over as texts or, if so wished, as richer values, and it is the
interpreter's own rules by which a result is read as a list or as a truth value. -/

namespace TabCompletion

structure Binding (β : Type) where
  /-- Runs a command; the flag says whether richer values are wished. -/
  call : Bool → List Value → β → Except Failure Value × β
  /-- The items of a result read as a list. -/
  items : Value → Except Failure (List Value)
  /-- A result read as a truth value. -/
  truth : Value → Except Failure Bool

namespace Binding

/-! ## Plain readings

How results are read where no interpreter is there to do it. -/

/-- These characters group the items of a list, so that splitting at blanks would cut items up. -/
def isGrouping (c : Char) : Bool :=
  ['{', '}', '[', ']', '"', '\\'].contains c

def separatesItems (c : Char) : Bool :=
  c == ' ' || c == '\t' || c == '\n'

/-- Lists are split at blanks; a result whose items are grouped is none. -/
def plainItems : Value → Except Failure (List Value)
  | .list items => .ok items
  | other =>
    if other.asText.toList.any isGrouping then .error (.binding "unmatched open brace in list")
    else .ok ((Text.piecesBy separatesItems other.asText).map .text)

def trueWords : List String := ["1", "t", "true", "y", "yes", "on"]

def falseWords : List String := ["0", "f", "false", "n", "no", "of", "off"]

/-- The words for truth values are plain letters, so that the case of plain letters is all that has
to be ignored. -/
def plainTruth : Value → Except Failure Bool
  | .truth b => .ok b
  | .whole n => .ok (n ≠ 0)
  | .text s =>
    let word := s.toLower
    if trueWords.contains word then .ok true
    else if falseWords.contains word then .ok false
    else .error (.binding "expected boolean value but got something else")
  | .list _ => .error (.binding "expected boolean value but got something else")
  | .nothing => .error (.binding "expected boolean value but got something else")

end Binding

end TabCompletion
