/-! # Glob patterns

The patterns in which an interpreter is asked for names: `*` stands for any run of characters, `?`
for any one, and a backslash takes the character after it literally. -/

namespace TabCompletion.Glob

/-- One step of a pattern. -/
inductive Token
  | literal (c : Char)
  | anyChar
  | anyRun
  /-- One character of a union of inclusive ranges. -/
  | oneOf (ranges : List (Char × Char))
deriving DecidableEq, Repr

def isSpecial (c : Char) : Bool :=
  c == '\\' || c == '*' || c == '?'

/-! ## Writing patterns -/

def escapeChars : List Char → List Char
  | [] => []
  | c :: cs => if isSpecial c then '\\' :: c :: escapeChars cs else c :: escapeChars cs

/-- The pattern that fits a text and nothing else. -/
def escape (raw : String) : String :=
  String.ofList (escapeChars raw.toList)

/-- The pattern that fits every name beginning with a text. -/
def startingWith (typed : String) : String :=
  escape typed ++ "*"

/-! ## Reading patterns -/

/-- The steps of a pattern; a backslash at its very end stands for itself. -/
def tokens : List Char → List Token
  | [] => []
  | '\\' :: c :: cs => .literal c :: tokens cs
  | '*' :: cs => .anyRun :: tokens cs
  | '?' :: cs => .anyChar :: tokens cs
  | c :: cs => .literal c :: tokens cs

/-- Whether a step fits one character. -/
def Token.accepts : Token → Char → Bool
  | .literal c, d => c == d
  | .anyChar, _ => true
  | .anyRun, _ => true
  | .oneOf ranges, d => ranges.any fun range => range.1 ≤ d && d ≤ range.2

/-- Whether some end of a text has a property. -/
def anySuffix (p : List Char → Bool) : List Char → Bool
  | [] => p []
  | c :: cs => p (c :: cs) || anySuffix p cs

/-- Whether the steps fit the whole of a name. -/
def fits : List Token → List Char → Bool
  | [], name => name.isEmpty
  | .anyRun :: rest, name => anySuffix (fits rest) name
  | _ :: _, [] => false
  | step :: rest, c :: cs => step.accepts c && fits rest cs

/-- Whether a pattern fits a name. -/
def admits (pattern name : String) : Bool :=
  fits (tokens pattern.toList) name.toList

end TabCompletion.Glob
