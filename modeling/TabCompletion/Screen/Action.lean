import TabCompletion.Screen.Literal
import TabCompletion.Text.Blank
import TabCompletion.Text.WordChar

/-! # Actions

A tag can say what happens when its text is clicked: a name, with arguments in parentheses if it
needs them. -/

namespace TabCompletion.Screen

/-- The characters of the name of an action. -/
def isActionChar (c : Char) : Bool :=
  Text.isWordChar c || c == '.'

/-- What of an action has to be a literal: the arguments with their parentheses, or the whole if it
does not have the form of an action; nothing if it is a name only. -/
def literalPart? (action : List Char) : Option (List Char) :=
  match action.dropWhile isActionChar with
  | [] => none
  | '(' :: rest =>
    if rest.getLast? = some ')' && !rest.contains '\n' then some ('(' :: rest) else some action
  | _ => some action

/-- Whether an action is well written. -/
def isAction (text : String) : Bool :=
  (literalPart? (Text.trimBlanks text).toList).all isLiteral

end TabCompletion.Screen
