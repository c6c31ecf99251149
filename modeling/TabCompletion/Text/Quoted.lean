import TabCompletion.Text.Printable

/-! # Quoted text

How texts are written where their ends and their invisible characters must be seen, as in a line of
the debug log: in single quotes, or in double quotes if that saves escaping, with a backslash escape
for all that does not show as itself. -/

namespace TabCompletion.Text

def hexDigit (n : Nat) : Char :=
  if n < 10 then Char.ofNat (48 + n) else Char.ofNat (87 + n)

/-- The last digits of a number in base sixteen, as many as asked for. -/
def hexDigits : Nat → Nat → List Char
  | 0, _ => []
  | width + 1, n => hexDigits width (n / 16) ++ [hexDigit (n % 16)]

/-- The escape of a character by its number, in the shortest of the three widths. -/
def numericEscape (c : Char) : List Char :=
  if c.toNat < 0x100 then '\\' :: 'x' :: hexDigits 2 c.toNat
  else if c.toNat < 0x10000 then '\\' :: 'u' :: hexDigits 4 c.toNat
  else '\\' :: 'U' :: hexDigits 8 c.toNat

/-- Characters with the letters that stand for them after a backslash. -/
def letterEscapes : List (Char × Char) :=
  [('\n', 'n'), ('\r', 'r'), ('\t', 't')]

/-- A character as it is written between two quotes. -/
def quotedChar (quote c : Char) : List Char :=
  if c = quote ∨ c = '\\' then ['\\', c]
  else
    match letterEscapes.lookup c with
    | some letter => ['\\', letter]
    | none => if isPrintable c then [c] else numericEscape c

/-- Double quotes are used only for a text that holds single quotes and no double ones. -/
def quoteFor (text : List Char) : Char :=
  if text.contains '\x27' && !text.contains '"' then '"' else '\x27'

def quoted (text : String) : String :=
  let quote := quoteFor text.toList
  String.ofList (quote :: text.toList.flatMap (quotedChar quote) ++ [quote])

/-- A fixed sequence of texts in parentheses; a lone one is followed by a comma, which tells it from
a text in parentheses. -/
def quotedTuple : List String → String
  | [only] => "(" ++ quoted only ++ ",)"
  | texts => "(" ++ ", ".intercalate (texts.map quoted) ++ ")"

end TabCompletion.Text
