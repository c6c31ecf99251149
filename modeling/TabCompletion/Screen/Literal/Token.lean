import TabCompletion.Text.Numeral
import TabCompletion.Text.Scan

/-! # Tokens of literals

Literals are written with numbers, quoted texts, a few words and signs. Blanks, comments and line
ends stand between them. -/

namespace TabCompletion.Screen.Literal

inductive Number
  | whole (n : Nat)
  | real
  | imaginary
deriving DecidableEq, Repr

inductive Token
  | number (n : Number)
  /-- A quoted text, of characters or of bytes. -/
  | text (ofBytes : Bool)
  /-- A word or a sign that stands for a value. -/
  | constant
  /-- The word that makes an empty set, with nothing in the parentheses after it. -/
  | setWord
  | sign (c : Char)
  | blank
  /-- A blank after which a line counts as if it started anew. -/
  | formFeed
  /-- A line end that is not one, since there is a backslash before it. -/
  | lineJoin
  | lineEnd
deriving DecidableEq, Repr

/-- The characters of which names consist; all but the plain ones are taken for such. -/
def isNameChar (c : Char) : Bool :=
  c.isAlphanum || c == '_' || 0x80 ≤ c.toNat

/-! ## Numbers -/

/-- A whole number in another base than ten; an underscore may stand before its digits. -/
def basedNumber? (cs : List Char) : Option (Number × List Char) :=
  match cs with
  | '0' :: letter :: rest =>
    let digits? := fun (base : Nat) (isDigit : Char → Bool) =>
      (Text.digits? isDigit (if rest.head? = some '_' then rest.tail else rest)).map
        fun (digits, rest) => (.whole (Text.numeral base (digits.filter (· ≠ '_'))), rest)
    match letter.toLower with
    | 'x' => digits? 16 Text.isHexDigit
    | 'o' => digits? 8 Text.isOctalDigit
    | 'b' => digits? 2 Text.isBinaryDigit
    | _ => none
  | _ => none

/-- The rest of a number after a power of ten, and whether there is one. -/
def afterPower (cs : List Char) : Bool × List Char :=
  match cs with
  | letter :: rest =>
    let unsigned := if rest.head? = some '+' || rest.head? = some '-' then rest.tail else rest
    match letter.toLower, Text.digits? Char.isDigit unsigned with
    | 'e', some (_, rest) => (true, rest)
    | _, _ => (false, cs)
  | [] => (false, cs)

/-- The whole number that some decimal digits write. There is no zero in front of others, unless all
are zeros, and their number is limited. -/
def wholeNumber? (digits : List Char) : Option Number :=
  if digits.all (· = '0') then some (.whole 0)
  else if digits.head? = some '0' || digits.length > Text.digitLimit then none
  else some (.whole (Text.numeral 10 digits))

/-- A number in base ten: digits, a fraction and a power of ten, each of which may be missing. -/
def decimalNumber? (cs : List Char) : Option (Number × List Char) :=
  let (digits, afterDigits) := (Text.digits? Char.isDigit cs).getD ([], cs)
  let hasPoint := afterDigits.head? = some '.'
  let afterPoint := if hasPoint then afterDigits.tail else afterDigits
  let fraction? := if hasPoint then Text.digits? Char.isDigit afterPoint else none
  if digits.isEmpty && fraction?.isNone then none
  else
    match afterPower ((fraction?.map Prod.snd).getD afterPoint) with
    | (_, 'j' :: rest) => some (.imaginary, rest)
    | (_, 'J' :: rest) => some (.imaginary, rest)
    | (hasPower, rest) =>
      if hasPoint || hasPower then some (.real, rest)
      else (wholeNumber? (digits.filter (· ≠ '_'))).map fun number => (number, rest)

/-- A number; no name can follow it directly. -/
def number? (cs : List Char) : Option (Token × List Char) :=
  match basedNumber? cs <|> decimalNumber? cs with
  | some (number, rest) => if rest.head?.any isNameChar then none else some (.number number, rest)
  | none => none

/-! ## Quoted texts -/

/-- A text up to the quote that ends it, as it is written, and the rest. A long text ends with three
quotes, and only a long one goes on after a line end. -/
def quotedRest? (quote : Char) (long : Bool) : List Char → Option (List Char × List Char)
  | [] => none
  | '\\' :: c :: cs =>
    (quotedRest? quote long cs).map fun (text, rest) => ('\\' :: c :: text, rest)
  | c :: cs =>
    if long && c = quote && [quote, quote].isPrefixOf cs then some ([], cs.drop 2)
    else if !long && c = quote then some ([], cs)
    else if !long && c = '\n' then none
    else (quotedRest? quote long cs).map fun (text, rest) => (c :: text, rest)

/-- Whether a text starts with so many hexadecimal digits, and what they write is no more than a
number. -/
def startsNumber (count most : Nat) (cs : List Char) : Bool :=
  let digits := cs.take count
  digits.length = count && digits.all Text.isHexDigit && Text.numeral 16 digits ≤ most

/-- Whether a text starts with the name of a character in braces. -/
def startsName : List Char → Bool
  | '\x7b' :: cs =>
    let name := cs.takeWhile fun c => c.isAlphanum || c == ' ' || c == '-'
    !name.isEmpty && (cs.drop name.length).head? = some '\x7d'
  | _ => false

/-- Whether every escape that needs digits or a name has them. -/
def hasEscapes (ofBytes : Bool) : List Char → Bool
  | '\\' :: letter :: cs =>
    (match letter with
      | 'x' => startsNumber 2 0xff cs
      | 'u' => ofBytes || startsNumber 4 0xffff cs
      | 'U' => ofBytes || startsNumber 8 0x10ffff cs
      | 'N' => ofBytes || startsName cs
      | _ => true) && hasEscapes ofBytes cs
  | _ :: cs => hasEscapes ofBytes cs
  | [] => true

/-- The letters that may stand before a quote, with what they say of the text: whether it is of
bytes, and whether backslashes are plain characters in it. -/
def textPrefixes : List (String × Bool × Bool) :=
  [("", false, false), ("u", false, false), ("b", true, false), ("r", false, true),
    ("br", true, true), ("rb", true, true)]

/-- A text after the quote that opens it. -/
def textAfter? (ofBytes isRaw : Bool) (quote : Char) (cs : List Char) :
    Option (Token × List Char) := do
  let long := [quote, quote].isPrefixOf cs
  let (text, rest) ← quotedRest? quote long (if long then cs.drop 2 else cs)
  if (isRaw || hasEscapes ofBytes text) && (!ofBytes || text.all fun c => c.toNat < 0x80) then
    return (.text ofBytes, rest)
  else none

def text? (cs : List Char) : Option (Token × List Char) :=
  let letters := cs.takeWhile Char.isAlpha
  match textPrefixes.lookup (String.ofList letters).toLower, cs.drop letters.length with
  | some (ofBytes, isRaw), '"' :: rest => textAfter? ofBytes isRaw '"' rest
  | some (ofBytes, isRaw), '\x27' :: rest => textAfter? ofBytes isRaw '\x27' rest
  | _, _ => none

/-! ## Words, signs and blanks -/

def word? (cs : List Char) : Option (Token × List Char) :=
  let name := cs.takeWhile isNameChar
  let rest := cs.drop name.length
  match String.ofList name with
  | "True" => some (.constant, rest)
  | "False" => some (.constant, rest)
  | "None" => some (.constant, rest)
  | "set" => some (.setWord, rest)
  | _ => none

/-- A sign, or what stands between tokens. A backslash joins two lines, of which the second cannot
be missing. -/
def mark? : List Char → Option (Token × List Char)
  | '.' :: '.' :: '.' :: cs => some (.constant, cs)
  | '\\' :: '\n' :: c :: cs => some (.lineJoin, c :: cs)
  | '\n' :: cs => some (.lineEnd, cs)
  | '\x0c' :: cs => some (.formFeed, cs)
  | ' ' :: cs => some (.blank, cs)
  | '\t' :: cs => some (.blank, cs)
  | '#' :: cs => some (.blank, cs.dropWhile (· ≠ '\n'))
  | c :: cs =>
    if ['(', ')', '\x7b', '\x7d', ',', ':', '+', '-'].contains c then some (.sign c, cs) else none
  | [] => none

def token? (cs : List Char) : Option (Token × List Char) :=
  number? cs <|> text? cs <|> word? cs <|> mark? cs

/-- The tokens of a text, if it consists of nothing else. -/
def tokens? (cs : List Char) : Option (List Token) :=
  (Text.parts (.ofReader token?) cs).mapM fun part =>
    match part with
    | .piece token => some token
    | .run _ => none

end TabCompletion.Screen.Literal
