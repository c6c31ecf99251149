import TabCompletion.Text.Blank

/-! # The command being typed

The text before the cursor is a script whose last command is still a draft. Completion looks only at
that command: the words already finished and the word being typed. -/

namespace TabCompletion

open Text

structure Draft where
  /-- The finished words of the command. -/
  words : List String
  /-- The word being typed, possibly empty. -/
  word : String
deriving DecidableEq, Repr

namespace Draft

/-- The characters that structure a script. -/
def structural : List Char := ['[', ']', ';', '{', '}', '"']

/-- Words run back to a blank or to a character that structures a script. -/
def isWordChar (c : Char) : Bool :=
  !isBlank c && !structural.contains c

/-- After these characters a new command begins. -/
def opensCommand (c : Char) : Bool :=
  ['[', ';', '{', '\n'].contains c

/-- The longest end of a text all of whose characters have a property. -/
def longestSuffix (p : Char → Bool) (text : List Char) : List Char :=
  (text.reverse.takeWhile p).reverse

/-- A text without its last character if that is a line end. -/
def withoutLineEnd (text : List Char) : List Char :=
  if text.getLast? = some '\n' then text.dropLast else text

/-- The word being typed; a line end at the very end of the text does not finish it. -/
def wordOf (text : List Char) : List Char :=
  longestSuffix isWordChar (withoutLineEnd text)

/-- What stands before the word, as many characters as the text has more than the word. -/
def headOf (text : List Char) : List Char :=
  text.take (text.length - (wordOf text).length)

/-- The part of the head that belongs to the command being typed. -/
def commandOf (text : List Char) : List Char :=
  longestSuffix (fun c => !opensCommand c) (headOf text)

def ofText (text : String) : Draft :=
  ⟨pieces (String.ofList (commandOf text.toList)), String.ofList (wordOf text.toList)⟩

end Draft

end TabCompletion
