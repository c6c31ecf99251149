import TabCompletion.Screen.Lines
import TabCompletion.Screen.Markup
import TabCompletion.Text.LineEnds

/-! # Columns

Marked-up texts in columns, row by row, in as many columns as fit the screen. -/

namespace TabCompletion.Screen

/-! ## Texts in their columns -/

/-- A text in its column. -/
structure Cell where
  width : Nat
  shown : Shown
deriving DecidableEq, Repr

namespace Cell

/-- The lines that show a text in its column; none if there is no room at all. -/
def lines (cell : Cell) : List (List Glyph) :=
  if cell.width = 0 then [] else (wrappedLines cell.width cell.shown).map (fit cell.width)

/-- A line with blanks at its end that fill so many cells. A joiner at the end of the line takes the
first of them for the pictogram before it, and one more makes up for that. -/
def fill (width : Nat) (line : List Char) : List Char :=
  let filled := line ++ List.replicate (width - cells line) ' '
  filled ++ List.replicate (width - cells filled) ' '

/-- The lines of a cell, each of which fills the column. -/
def block (cell : Cell) : List (List Char) :=
  cell.lines.map fun line => fill cell.width (line.map Glyph.char)

/-- Whether a gap of a text is drawn. In a text that is one line, and not cut before it, it is; the
lines into which other texts are divided have no gaps. -/
def drawsGap (cell : Cell) (gap : Nat) : Bool :=
  match wrappedLines cell.width cell.shown with
  | [line] =>
    let drawn := (fit cell.width line).length
    cell.width ≠ 0 && !cell.shown.text.contains '\t' && (gap < drawn || drawn = line.length)
  | _ => false

/-- Whether all looks that are asked for where the text is drawn can be drawn. -/
def isDrawable (cell : Cell) : Bool :=
  cell.lines.all (·.all (!·.isFlawed)) && !cell.shown.gaps.any cell.drawsGap

end Cell

/-! ## Widths of columns -/

/-- How many cells a text would fill at its widest on a screen. -/
def fullWidth (screen : Nat) (shown : Shown) : Nat :=
  min screen (((shown.text.splitOnP Text.endsLine).map cells).foldl max 0)

/-- Some items in rows of the same length, but for the last. -/
def rows {α : Type} (count : Nat) (items : List α) : List (List α) :=
  (List.range ((items.length + count - 1) / count)).map fun row =>
    (items.drop (row * count)).take count

/-- The greater ones of two rows of numbers. -/
def greater : List Nat → List Nat → List Nat
  | [], ns => ns
  | ms, [] => ms
  | m :: ms, n :: ns => max m n :: greater ms ns

/-- How wide so many columns are. -/
def columnWidths (count : Nat) (sizes : List Nat) : List Nat :=
  (rows count sizes).foldl greater []

/-- Columns stand next to each other with one blank between them. -/
def fitsScreen (screen : Nat) (widths : List Nat) : Bool :=
  widths.foldl (· + ·) (widths.length - 1) ≤ screen

/-- The widths of the greatest number of columns that fit, up to a number; a single column always
does. -/
def bestWidths (screen : Nat) (sizes : List Nat) : Nat → List Nat
  | 0 => []
  | 1 => columnWidths 1 sizes
  | count + 2 =>
    let widths := columnWidths (count + 2) sizes
    if fitsScreen screen widths then widths else bestWidths screen sizes (count + 1)

/-- Takes a cell from the widest column, the last of them if there are several. -/
def narrowWidest : List Nat → List Nat
  | [] => []
  | width :: widths =>
    if widths.all (· < width) then (width - 1) :: widths else width :: narrowWidest widths

/-- The last column is at least one cell wide if there is room. If there is none, the attempt still
costs another column a cell. -/
def settled (screen : Nat) (widths : List Nat) : List Nat :=
  if widths.getLast? = some 0 then
    let others := widths.dropLast
    if fitsScreen screen (others ++ [1]) then others ++ [1] else narrowWidest others ++ [0]
  else widths

/-! ## Columns -/

/-- Some texts in columns. Columns in which the last row has no text stay blank there. -/
def layout (screen : Nat) (texts : List Shown) : List (List Cell) :=
  let widths := settled screen (bestWidths screen (texts.map (fullWidth screen)) texts.length)
  (rows widths.length texts).map fun row =>
    (widths.zip (row ++ List.replicate (widths.length - row.length) ⟨[], []⟩)).map
      fun (width, shown) => ⟨width, shown⟩

/-- The lines that show a row of cells. Below its text a cell is blank. -/
def rowLines (row : List Cell) : List (List Char) :=
  let blocks := row.map fun cell => (cell.width, cell.block)
  let height := (blocks.map fun (_, block) => block.length).foldl max 1
  (List.range height).map fun number =>
    [' '].intercalate (blocks.map fun (width, block) =>
      (block[number]?).getD (List.replicate width ' '))

/-- Some marked-up texts as they are shown in columns on a screen with so many cells in a line. The
tags of all texts are looked at before any text is drawn. -/
def columns (screen : Nat) (texts : List String) : Except Fault String := do
  let rows := layout screen (← texts.mapM shown)
  if rows.all (·.all Cell.isDrawable) then
    return String.ofList ((rows.flatMap rowLines).flatMap fun line => line ++ ['\n'])
  else .error .noNumber

/-- Some marked-up texts on a screen; on one without cells they are not even looked at. -/
def display (screen : Nat) (texts : List String) : Except Fault String :=
  if screen = 0 then .ok "" else columns screen texts

/-- The number of cells that is written in a variable, in the digits of any script. -/
def cellCount? (text : String) : Option Nat :=
  let digits := text.toList
  if isReadable digits && digits.all Text.isDecimalDigit then some (Text.decimal digits) else none

end TabCompletion.Screen
