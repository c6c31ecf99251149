import TabCompletion.Toml.Quote
import TabCompletion.Toml.Scalar
import TabCompletion.Toml.Tables

/-! # TOML documents -/

namespace TabCompletion.Toml

/-! ## Keys -/

/-- A part of a dotted key: bare, or quoted on one line. -/
def keyPart : Reader String := fun cs =>
  match shortText? cs with
  | some result => do
    let (text, rest) ← result
    return (String.ofList text, rest)
  | none =>
    match cs.takeWhile isBareKeyChar with
    | [] => .error .malformed
    | part => .ok (String.ofList part, cs.dropWhile isBareKeyChar)

/-- A key of one or more parts; the number bounds how many follow. -/
def keyParts : Nat → Reader Key
  | 0, _ => .error .malformed
  | bound + 1, cs => do
    let (part, afterPart) ← keyPart cs
    match skipSpace afterPart with
    | '.' :: more =>
      let (parts, rest) ← keyParts bound (skipSpace more)
      return (part :: parts, rest)
    | rest => return ([part], rest)

def key : Reader Key := fun cs =>
  keyParts (cs.length + 1) cs

/-! ## Values -/

/-- A key and a value with an equals sign between them. -/
def pair (value : Reader Data) : Reader (Key × Data) := fun cs => do
  match ← key cs with
  | (k, '=' :: more) =>
    let (v, rest) ← value (skipSpace more)
    return ((k, v), rest)
  | _ => .error .malformed

/-- The items of an array after its opening bracket or a comma; the number bounds how many. -/
def items (value : Reader Data) : Nat → Reader (List Data)
  | 0, _ => .error .malformed
  | bound + 1, cs => do
    match ← skipFiller cs.length cs with
    | ']' :: rest => return ([], rest)
    | more =>
      let (item, afterItem) ← value more
      match ← skipFiller afterItem.length afterItem with
      | ']' :: rest => return ([item], rest)
      | ',' :: next =>
        let (others, rest) ← items value bound next
        return (item :: others, rest)
      | _ => .error .malformed

/-- The entries of a table in braces, each after the opening brace or a comma; the number bounds how
many. -/
def entries (value : Reader Data) : Nat → List Key → Table → Reader Table
  | 0, _, _, _ => .error .malformed
  | bound + 1, closed, table, cs => do
    let ((k, v), afterPair) ← pair value (skipSpace cs)
    let (closed, table) ← addInline closed k v table
    match skipSpace afterPair with
    | '\x7d' :: rest => return (table, rest)
    | ',' :: more => entries value bound closed table more
    | _ => .error .malformed

def inlineTable (value : Reader Data) : Reader Table := fun cs =>
  match skipSpace cs with
  | '\x7d' :: rest => .ok ([], rest)
  | _ => entries value (cs.length + 1) [] [] cs

/-- A value, given how a value inside an array and one inside a table in braces is read. -/
def valueOver (inArray inTable : Reader Data) : Reader Data := fun cs =>
  match text? cs with
  | some result => do
    let (text, rest) ← result
    return (.text (String.ofList text), rest)
  | none =>
    match cs with
    | '[' :: more => do
      let (found, rest) ← items inArray (cs.length + 1) more
      return (.list found, rest)
    | '\x7b' :: more => do
      let (found, rest) ← inlineTable inTable more
      return (.table found, rest)
    | _ => scalar cs

def tooDeep : Reader Data := fun _ =>
  .error .tooDeep

/-- A value in the room that is left for nesting: an array takes two units of it from the values
inside, a table in braces three. -/
def value : Nat → Reader Data
  | 0 => valueOver tooDeep tooDeep
  | 1 => valueOver tooDeep tooDeep
  | 2 => valueOver (value 0) tooDeep
  | room + 3 => valueOver (value (room + 1)) (value room)

/-- The room for nesting in a document: enough for 494 arrays or for 329 tables. -/
def nestingRoom : Nat := 989

/-! ## Statements -/

/-- What follows a text, taken off the front. -/
def expect (text : String) (cs : List Char) : Except Fault (List Char) :=
  match after? text.toList cs with
  | some rest => .ok rest
  | none => .error .malformed

/-- One statement, which a text that is not blank starts with. -/
def statement (a : Assembly) : List Char → Except Fault (Assembly × List Char)
  | '[' :: '[' :: cs => do
    let (k, afterKey) ← key (skipSpace cs)
    let next ← a.settle.openElement k
    return (next, ← expect "]]" afterKey)
  | '[' :: cs => do
    let (k, afterKey) ← key (skipSpace cs)
    let next ← a.settle.openTable k
    return (next, ← expect "]" afterKey)
  | '#' :: cs => .ok (a, '#' :: cs)
  | cs => do
    let ((k, v), rest) ← pair (value nestingRoom) cs
    return (← a.addEntry k v, rest)

/-- Reads the statements of a document, one after the other; the number bounds how many. -/
def statements : Nat → Assembly → List Char → Except Fault Assembly
  | 0, _, _ => .error .malformed
  | bound + 1, a, cs =>
    match skipSpace cs with
    | [] => .ok a
    | '\n' :: rest => statements bound a rest
    | line => do
      let (next, afterStatement) ← statement a line
      match ← skipComment (skipSpace afterStatement) with
      | [] => return next
      | '\n' :: rest => statements bound next rest
      | _ => .error .malformed

/-- The table that a document describes. -/
def document (text : String) : Except Fault Table := do
  let a ← statements (text.length + 1) .empty text.toList
  return a.table

end TabCompletion.Toml
