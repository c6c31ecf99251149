/-! # Scanning a text

A recogniser takes pieces off the front of a text. Scanning with it divides a text into these pieces
and the runs between them; a piece is taken at the first place at which there is one. -/

namespace TabCompletion.Text

/-- What is at the front of a text, if it is there, and how many characters after the first belong
to it. -/
abbrev Recogniser (α : Type) : Type :=
  List Char → Option (α × Nat)

/-- Recognises what a reader takes off the front of a text; the reader leaves the rest. -/
def Recogniser.ofReader {α : Type} (read : List Char → Option (α × List Char)) : Recogniser α :=
  fun cs => (read cs).map fun (a, rest) => (a, cs.length - rest.length - 1)

inductive Part (α : Type)
  /-- Characters that belong to no piece. -/
  | run (cs : List Char)
  | piece (a : α)
deriving DecidableEq, Repr

variable {α : Type}

/-- Puts a character in front of the parts of a text; it joins a run that comes next. -/
def prepend (c : Char) : List (Part α) → List (Part α)
  | .run cs :: rest => .run (c :: cs) :: rest
  | parts => .run [c] :: parts

/-- The parts of a text, once so many characters that belong to a piece have been passed over. -/
def partsAfter (recognise : Recogniser α) : Nat → List Char → List (Part α)
  | _, [] => []
  | more + 1, _ :: cs => partsAfter recognise more cs
  | 0, c :: cs =>
    match recognise (c :: cs) with
    | some (a, more) => .piece a :: partsAfter recognise more cs
    | none => prepend c (partsAfter recognise 0 cs)

def parts (recognise : Recogniser α) (text : List Char) : List (Part α) :=
  partsAfter recognise 0 text

/-! ## Replacing -/

/-- The characters of a part whose pieces are texts. -/
def Part.chars : Part (List Char) → List Char
  | run cs => cs
  | piece cs => cs

/-- A text with another text in the place of every piece. -/
def replacing (recognise : Recogniser (List Char)) (text : List Char) : List Char :=
  (parts recognise text).flatMap Part.chars

end TabCompletion.Text
