import TabCompletion.Text.Scan

/-! # Control sequences

A control sequence tells a screen how to show what follows. Where the output is not a screen, it is
left out. -/

namespace TabCompletion.Screen

/-- Parameters stand between the opening of a control sequence and the letter that ends it. -/
def isParameter (c : Char) : Bool :=
  c.isDigit || c == ';' || c == '?'

/-- Recognises a control sequence; nothing takes its place. -/
def controlSequence? : Text.Recogniser (List Char)
  | '\x1b' :: '[' :: cs =>
    let parameters := cs.takeWhile isParameter
    match cs.drop parameters.length with
    | c :: _ => if c.isAlpha then some ([], parameters.length + 2) else none
    | [] => none
  | _ => none

def withoutControlSequences (text : String) : String :=
  String.ofList (Text.replacing controlSequence? text.toList)

end TabCompletion.Screen
