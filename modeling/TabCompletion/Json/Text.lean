import TabCompletion.Offer
import TabCompletion.Text.Quoted
import TabCompletion.Text.Units

/-! # JSON texts

A JSON text is written with plain ASCII characters only: every other character is given by the
numbers of its UTF-16 units. -/

namespace TabCompletion

namespace Json

def unitEscape (unit : Nat) : List Char :=
  '\\' :: 'u' :: Text.hexDigits 4 unit

/-- The letters after a backslash that stand for characters. -/
def shortEscapes : List (Char × Char) :=
  [('"', '"'), ('\\', '\\'), ('n', '\n'), ('r', '\r'), ('t', '\t'), ('f', '\x0c'), ('b', '\x08')]

/-- The letter that stands for a character after a backslash, if there is one. -/
def shortEscape? (c : Char) : Option Char :=
  (shortEscapes.find? fun escape => escape.2 = c).map Prod.fst

def escapedChar (c : Char) : List Char :=
  match shortEscape? c with
  | some letter => ['\\', letter]
  | none =>
    if 32 ≤ c.toNat ∧ c.toNat < 127 then [c]
    else (Text.units c).flatMap unitEscape

def string (text : String) : String :=
  String.ofList ('"' :: text.toList.flatMap escapedChar ++ ['"'])

def array (items : List String) : String :=
  "[" ++ ", ".intercalate items ++ "]"

/-- An object, given by its keys and the texts of their values. -/
def object (entries : List (String × String)) : String :=
  "\x7b" ++ ", ".intercalate (entries.map fun entry => string entry.1 ++ ": " ++ entry.2) ++ "\x7d"

end Json

/-- An offer as a JSON text. -/
def Offer.toJson (offer : Offer) : String :=
  Json.object [("prefix", Json.string offer.common),
    ("matches", Json.array (offer.names.map Json.string))]

end TabCompletion
