/-! # Blank characters and the pieces between them -/

namespace TabCompletion.Text

/-- The inclusive code point ranges of the characters that separate words: the white space of
Unicode, together with the four information separators `U+001C` to `U+001F`. -/
def blankRanges : List (Nat × Nat) :=
  [(0x09, 0x0d), (0x1c, 0x20), (0x85, 0x85), (0xa0, 0xa0), (0x1680, 0x1680), (0x2000, 0x200a),
    (0x2028, 0x2029), (0x202f, 0x202f), (0x205f, 0x205f), (0x3000, 0x3000)]

def isBlank (c : Char) : Bool :=
  blankRanges.any fun range => range.1 ≤ c.toNat && c.toNat ≤ range.2

/-- The maximal runs of characters that are no separators, in order. -/
def piecesBy (sep : Char → Bool) (text : String) : List String :=
  ((text.toList.splitOnP sep).filter fun run => !run.isEmpty).map String.ofList

/-- The words of a text: its maximal runs without blanks. -/
def pieces (text : String) : List String :=
  piecesBy isBlank text

/-- A text without the blanks at its two ends. -/
def trimBlanks (text : String) : String :=
  String.ofList (((text.toList.dropWhile isBlank).reverse.dropWhile isBlank).reverse)

/-- The first word of a text and all that follows it, trimmed; nothing if the text is blank. -/
def firstPiece? (text : String) : Option (String × String) :=
  match text.toList.dropWhile isBlank with
  | [] => none
  | c :: cs =>
    let run := (c :: cs).takeWhile fun d => !isBlank d
    some (String.ofList run, trimBlanks (String.ofList ((c :: cs).drop run.length)))

/-- Whether a name begins with what was typed, taken literally. -/
def beginsWith (typed name : String) : Bool :=
  typed.toList.isPrefixOf name.toList

theorem beginsWith_iff {typed name : String} :
    beginsWith typed name = true ↔ typed.toList <+: name.toList :=
  List.isPrefixOf_iff_prefix

theorem prefix_of_mem_filter {typed name : String} {names : List String}
    (h : name ∈ names.filter (beginsWith typed)) : typed.toList <+: name.toList :=
  beginsWith_iff.mp (List.mem_filter.mp h).2

end TabCompletion.Text
