import TabCompletion.Screen.CellWidth
import TabCompletion.Screen.Shown
import TabCompletion.Text.Blank

/-! # Lines

A text is divided into lines that fit a width: wrapped at blanks, and cut where a word is longer
than a line. -/

namespace TabCompletion.Screen

def Glyph.isBlank (glyph : Glyph) : Bool :=
  Text.isBlank glyph.char

/-- How many cells a line fills. -/
def lineCells (line : List Glyph) : Nat :=
  cells (line.map Glyph.char)

/-! ## Wrapping -/

/-- Tabs lead to the next of the positions that are multiples of this. -/
def tabSize : Nat := 8

/-- The parts of a line, each up to a tab, with blanks for the tabs, from a position in the line on.
The blanks look as the tab would. -/
def expandParts : Nat → List (List Glyph) → List Glyph
  | _, [] => []
  | position, part :: parts =>
    match part.getLast? with
    | some ⟨'\t', isFlawed⟩ =>
      let blank : Glyph := ⟨' ', isFlawed⟩
      let upToBlank := part.dropLast ++ [blank]
      let reached := position + lineCells upToBlank
      let more := (tabSize - reached % tabSize) % tabSize
      upToBlank ++ List.replicate more blank ++ expandParts (reached + more) parts
    | _ => part ++ expandParts (position + lineCells part) parts

/-- A line with blanks for tabs. -/
def expandTabs (line : List Glyph) : List Glyph :=
  expandParts 0 (line.splitBy fun glyph _ => glyph.char != '\t')

/-- A line without the blanks at its end. -/
def trimEnd (line : List Glyph) : List Glyph :=
  (line.reverse.dropWhile Glyph.isBlank).reverse

/-- The words of a line, each with the blanks after it. -/
def words (line : List Glyph) : List (List Glyph) :=
  line.splitBy fun a b => !(a.isBlank && !b.isBlank)

/-- Adds words to a line that fills so many cells, and goes on with a new line before a word that
does not fit. -/
def wrapFrom (width filled : Nat) (line : List Glyph) : List (List Glyph) → List (List Glyph)
  | [] => [line]
  | word :: rest =>
    if !line.all Glyph.isBlank && filled + lineCells (trimEnd word) > width then
      line :: wrapFrom width (lineCells word) word rest
    else wrapFrom width (filled + lineCells word) (line ++ word) rest

/-- The lines of a text, wrapped but not yet cut. -/
def wrappedLines (width : Nat) (shown : Shown) : List (List Glyph) :=
  (shown.glyphs.splitOnP (·.char == '\n')).flatMap fun line =>
    wrapFrom width 0 [] (words (expandTabs line))

/-- A line without the blanks that make it too long. -/
def trimTo (width : Nat) (line : List Glyph) : List Glyph :=
  let blanks := line.length - (trimEnd line).length
  line.take (line.length - min blanks (line.length - width))

/-! ## Cutting -/

/-- The start of a text that fills so many cells. The characters of the text come with their widths.
If a wide character reaches beyond the last cell, a blank stands in its place. -/
def start : Nat → List (Char × Nat) → List Char
  | _, [] => []
  | room, (c, width) :: rest =>
    if width ≤ room then c :: start (room - width) rest else List.replicate room ' '

/-- A text that is too long for so many cells, cut to fill them with an ellipsis at its end. -/
def cut (width : Nat) (text : List Char) : List Char :=
  (if width ≤ 1 then [] else start (width - 1) (text.zip (widths text))) ++ ['…']

/-- A line, cut if it is too long. Characters that take the place of others look like these. -/
def shorten (width : Nat) (line : List Glyph) : List Glyph :=
  if lineCells line ≤ width then line
  else (cut width (line.map Glyph.char)).zipWith (fun c glyph => { glyph with char := c }) line

/-- A line as it is shown in so many cells, but for the blanks that fill them. -/
def fit (width : Nat) (line : List Glyph) : List Glyph :=
  shorten width (trimTo width line)

end TabCompletion.Screen
