import TabCompletion.Screen.PictogramNames
import TabCompletion.Text.Blank
import TabCompletion.Text.LowerCase
import TabCompletion.Text.Scan

/-! # Pictograms

A name between two colons stands for a pictogram. An ending of the name can ask for one of the two
forms in which a pictogram is drawn. -/

namespace TabCompletion.Screen

/-- The entries of the table, each a name, an equals sign and a pictogram. -/
def pictogramEntries : List String :=
  Text.pieces pictogramTable

/-- The pictogram of a name; the case of its letters does not matter. -/
def pictogram? : List Char → Option (List Char)
  | [] => none
  | name =>
    let start := Text.lowerCase (String.ofList name) ++ "="
    (pictogramEntries.find? (Text.beginsWith start)).map fun entry =>
      entry.toList.drop start.length

/-- The endings of a name that ask for a form, with the character that selects the form. -/
def formEndings : List (String × Char) :=
  [("-emoji", '\ufe0f'), ("-text", '\ufe0e')]

/-- A name without its ending, and the selector that the ending stands for. -/
def splitForm (name : List Char) : List Char × List Char :=
  match formEndings.find? fun ending => ending.1.toList.isSuffixOf name with
  | some (ending, selector) => (name.take (name.length - ending.length), [selector])
  | none => (name, [])

/-- What stands for a name between two colons: its pictogram, or else the name as it was. -/
def drawn (name : List Char) : List Char :=
  let (base, form) := splitForm name
  match pictogram? base with
  | some pictogram => pictogram ++ form
  | none => ':' :: name ++ [':']

/-- Recognises a name between two colons, in which there are no blanks. -/
def pictogramName? : Text.Recogniser (List Char)
  | ':' :: cs =>
    let name := cs.takeWhile fun c => c ≠ ':' && !Text.isBlank c
    match cs.drop name.length with
    | ':' :: _ => some (drawn name, name.length + 1)
    | _ => none
  | _ => none

def withPictograms (text : List Char) : List Char :=
  Text.replacing pictogramName? text

end TabCompletion.Screen
