import TabCompletion.Text.Blank

/-! # File paths

A path is kept in a normal form: empty parts and parts `.` are gone, while `..` stays, since what it
means depends on the tree. Exactly two slashes in front are a root of their own. -/

namespace TabCompletion

/-- Where a path starts. -/
inductive Path.Anchor
  /-- The working directory. -/
  | here
  | slash
  | twoSlashes
deriving DecidableEq, Repr

structure Path where
  anchor : Path.Anchor
  parts : List String
deriving DecidableEq, Repr

namespace Path

def Anchor.text : Anchor → String
  | here => ""
  | slash => "/"
  | twoSlashes => "//"

/-- Two slashes in front are kept, any other number of them counts as one. -/
def anchorOf (text : List Char) : Anchor :=
  match (text.takeWhile (· == '/')).length with
  | 0 => .here
  | 2 => .twoSlashes
  | _ => .slash

def ofString (text : String) : Path :=
  ⟨anchorOf text.toList, (Text.piecesBy (· == '/') text).filter (· ≠ ".")⟩

/-- The text of a path; the working directory itself is `.`. -/
def text (path : Path) : String :=
  if path.anchor = .here ∧ path.parts = [] then "."
  else path.anchor.text ++ "/".intercalate path.parts

/-- The path without its last part; a path without parts is its own parent. -/
def parent (path : Path) : Path :=
  ⟨path.anchor, path.parts.dropLast⟩

def append (path : Path) (more : List String) : Path :=
  ⟨path.anchor, path.parts ++ more⟩

end Path

end TabCompletion
