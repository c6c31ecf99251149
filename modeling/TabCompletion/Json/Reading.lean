import TabCompletion.Data
import TabCompletion.Json.Text

/-! # Reading JSON texts

A reader for the JSON texts that hold nothing but texts, arrays and objects, with which a caller of
the program gets an offer back from what was printed. -/

namespace TabCompletion.Json

/-- A reader takes a value off the front of a text and leaves the rest. -/
abbrev Reader (α : Type) : Type :=
  List Char → Option (α × List Char)

def isBlank (c : Char) : Bool :=
  [' ', '\t', '\n', '\r'].contains c

def skipBlanks (cs : List Char) : List Char :=
  cs.dropWhile isBlank

/-! ## Texts -/

def hexValue? (c : Char) : Option Nat :=
  if '0' ≤ c ∧ c ≤ '9' then some (c.toNat - 48)
  else if 'a' ≤ c ∧ c ≤ 'f' then some (c.toNat - 87)
  else if 'A' ≤ c ∧ c ≤ 'F' then some (c.toNat - 55)
  else none

/-- The number that hexadecimal digits write, after those already read. -/
def hexNumber? : Nat → List Char → Option Nat
  | n, [] => some n
  | n, c :: cs => do hexNumber? (n * 16 + (← hexValue? c)) cs

/-- The character that a letter stands for after a backslash; a slash may be escaped too. -/
def shortEscaped? (letter : Char) : Option Char :=
  if letter = '/' then some '/'
  else (shortEscapes.find? fun escape => escape.1 = letter).map Prod.snd

/-- The UTF-16 units of a text after its opening quote, up to the closing one. -/
def unitsRest : Reader (List Nat)
  | [] => none
  | '"' :: cs => some ([], cs)
  | '\\' :: 'u' :: a :: b :: c :: d :: cs => do
    let unit ← hexNumber? 0 [a, b, c, d]
    let (more, rest) ← unitsRest cs
    return (unit :: more, rest)
  | '\\' :: letter :: cs => do
    let c ← shortEscaped? letter
    let (more, rest) ← unitsRest cs
    return (Text.units c ++ more, rest)
  | c :: cs =>
    if c = '\\' ∨ c.toNat < 32 then none
    else do
      let (more, rest) ← unitsRest cs
      return (Text.units c ++ more, rest)

def textRest : Reader String := fun cs => do
  let (units, rest) ← unitsRest cs
  return (String.ofList (← Text.ofUnits? units), rest)

/-! ## Values -/

/-- The items of an array, at least one, after its opening bracket or a comma; the number bounds how
many. -/
def items (value : Reader Data) : Nat → Reader (List Data)
  | 0, _ => none
  | bound + 1, cs => do
    let (item, afterItem) ← value (skipBlanks cs)
    match skipBlanks afterItem with
    | ']' :: rest => return ([item], rest)
    | ',' :: next =>
      let (others, rest) ← items value bound next
      return (item :: others, rest)
    | _ => none

/-- A key and a value with a colon between them. -/
def entry (value : Reader Data) : Reader (String × Data) := fun cs => do
  match cs with
  | '"' :: more =>
    let (key, afterKey) ← textRest more
    match skipBlanks afterKey with
    | ':' :: next =>
      let (found, rest) ← value (skipBlanks next)
      return ((key, found), rest)
    | _ => none
  | _ => none

/-- The entries of an object, at least one, after its opening brace or a comma; the number bounds
how many. -/
def entries (value : Reader Data) : Nat → Reader (List (String × Data))
  | 0, _ => none
  | bound + 1, cs => do
    let (first, afterEntry) ← entry value (skipBlanks cs)
    match skipBlanks afterEntry with
    | '\x7d' :: rest => return ([first], rest)
    | ',' :: next =>
      let (others, rest) ← entries value bound next
      if (others.lookup first.1).isSome then none else return (first :: others, rest)
    | _ => none

/-- A value, nested no more deeply than the number says. -/
def value : Nat → Reader Data
  | 0, _ => none
  | _, '"' :: more => do
    let (text, rest) ← textRest more
    return (.text text, rest)
  | depth + 1, '[' :: more =>
    match skipBlanks more with
    | ']' :: rest => some (.list [], rest)
    | _ => do
      let (found, rest) ← items (value depth) more.length more
      return (.list found, rest)
  | depth + 1, '\x7b' :: more =>
    match skipBlanks more with
    | '\x7d' :: rest => some (.table [], rest)
    | _ => do
      let (found, rest) ← entries (value depth) more.length more
      return (.table found, rest)
  | _, _ => none

/-- The value of a JSON text; nothing may follow it but blanks. -/
def read? (text : String) : Option Data := do
  let (found, rest) ← value text.length (skipBlanks text.toList)
  if (skipBlanks rest).isEmpty then return found else none

end TabCompletion.Json

namespace TabCompletion

/-- The offer that a value describes, if it has the fields of one and no others. -/
def Offer.ofData? : Data → Option Offer
  | .table entries => do
    let common ← entries.lookup "prefix" >>= Data.text?
    let names ← entries.lookup "matches" >>= Data.texts?
    if entries.length = 2 then return ⟨common, names⟩ else none
  | _ => none

/-- The offer that a JSON text describes. -/
def Offer.ofJson? (text : String) : Option Offer :=
  Json.read? text >>= Offer.ofData?

end TabCompletion
