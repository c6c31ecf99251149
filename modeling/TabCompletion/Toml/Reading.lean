/-! # Readers of a TOML text -/

namespace TabCompletion.Toml

inductive Fault
  /-- The text is not a TOML document. -/
  | malformed
  /-- A decimal integer has more digits than can be read. -/
  | numberTooLong
  /-- Values are nested more deeply than can be read. -/
  | tooDeep
deriving DecidableEq, Repr

/-- A reader takes a value off the front of a text and leaves the rest. -/
abbrev Reader (α : Type) : Type :=
  List Char → Except Fault (α × List Char)

/-! ## Characters -/

def isSpace (c : Char) : Bool :=
  c == ' ' || c == '\t'

def isSpaceOrLine (c : Char) : Bool :=
  isSpace c || c == '\n'

/-- Controls other than the tab, which stand nowhere but as line ends. -/
def isControl (c : Char) : Bool :=
  (c.toNat < 32 && c ≠ '\t') || c.toNat == 127

def isBareKeyChar (c : Char) : Bool :=
  c.isAlphanum || c == '-' || c == '_'

/-! ## Spaces and comments -/

def skipSpace (cs : List Char) : List Char :=
  cs.dropWhile isSpace

/-- Skips a comment up to the end of its line. -/
def skipComment : List Char → Except Fault (List Char)
  | '#' :: cs =>
    if (cs.takeWhile (· ≠ '\n')).any isControl then .error .malformed
    else .ok (cs.dropWhile (· ≠ '\n'))
  | cs => .ok cs

/-- Skips line ends, spaces and comments, which may stand between the items of an array; the first
number bounds how many comments there are. -/
def skipFiller : Nat → List Char → Except Fault (List Char)
  | 0, cs => .ok cs
  | bound + 1, cs =>
    match cs.dropWhile isSpaceOrLine with
    | '#' :: rest => do skipFiller bound (← skipComment ('#' :: rest))
    | rest => .ok rest

/-- The text after a prefix it starts with. -/
def after? : List Char → List Char → Option (List Char)
  | [], cs => some cs
  | p :: ps, c :: cs => if p = c then after? ps cs else none
  | _ :: _, [] => none

end TabCompletion.Toml
