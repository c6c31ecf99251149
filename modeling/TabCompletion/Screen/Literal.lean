import TabCompletion.Screen.Literal.Token
import TabCompletion.Text.LineEnds

/-! # Literals

A literal is a text that writes down a value: a number, a quoted text, a constant, or a collection
of values in brackets. What stands in braces, the items of a set and the keys of a dictionary, must
never change; sets and dictionaries themselves do. -/

namespace TabCompletion.Screen

namespace Literal

/-- What a value is, as far as it matters for what it can be a part of. -/
inductive Value
  | number (n : Number) (signed : Bool)
  /-- A quoted text, to which the next one can be joined. -/
  | text (ofBytes : Bool)
  /-- The word for sets on its own, which is no value yet. -/
  | setWord
  /-- A value that never changes, and needs no closer look. -/
  | fixed
  | changing
deriving DecidableEq, Repr

def Value.isWhole : Value → Bool
  | setWord => false
  | _ => true

def Value.isFixed : Value → Bool
  | setWord => false
  | changing => false
  | _ => true

/-- How far an item has been read. -/
inductive Item
  | empty
  /-- A sign, to be followed by a number. -/
  | sign
  | value (v : Value)
  /-- A number and a sign, to be followed by an imaginary number. -/
  | sum
deriving DecidableEq, Repr

/-- A number that is too great for a real number, which a sum with an imaginary one would need. -/
def isTooGreat : Number → Bool
  | .whole n => Nat.pow 2 1024 - Nat.pow 2 970 ≤ n
  | _ => false

namespace Item

/-- An item with a value after what has been read of it. -/
def withValue? (v : Value) : Item → Option Item
  | empty => some (.value v)
  | sign =>
    match v with
    | .number n false => some (.value (.number n true))
    | _ => none
  | sum => if v = .number .imaginary false then some (.value .fixed) else none
  | value _ => none

/-- Texts that stand next to each other are one text. -/
def withText? (ofBytes : Bool) (item : Item) : Option Item :=
  if item = .value (.text ofBytes) then some item else item.withValue? (.text ofBytes)

def withSign? : Item → Option Item
  | empty => some .sign
  | value (.number n _) => if n = .imaginary || isTooGreat n then none else some .sum
  | _ => none

end Item

/-! ## Brackets -/

inductive Bracket
  /-- None: the literal itself. -/
  | outermost
  | parentheses
  /-- Parentheses after the word for sets. -/
  | setParentheses
  /-- Braces, before it is clear what is in them. -/
  | braces
  | setBraces
  /-- Braces of a dictionary, where a key is expected. -/
  | keys
  /-- Braces of a dictionary, after a key. -/
  | values
deriving DecidableEq, Repr

/-- A bracket that is open. -/
structure Level where
  bracket : Bracket
  /-- Whether an item has ended with a comma. -/
  hasComma : Bool := false
  /-- Whether one of these items may change. -/
  changes : Bool := false
  item : Item := .empty
deriving DecidableEq, Repr

namespace Level

/-- The level after a comma. -/
def next? (level : Level) : Option Level :=
  match level.item with
  | .value v =>
    let after := fun bracket =>
      some ⟨bracket, true, level.changes || !v.isFixed, .empty⟩
    match level.bracket with
    | .outermost => if v.isWhole then after .outermost else none
    | .parentheses => if v.isWhole then after .parentheses else none
    | .braces => if v.isFixed then after .setBraces else none
    | .setBraces => if v.isFixed then after .setBraces else none
    | .values => if v.isWhole then after .keys else none
    | .setParentheses => none
    | .keys => none
  | _ => none

/-- The level after a colon, which follows a key. -/
def afterKey? (level : Level) : Option Level :=
  match level.item with
  | .value v =>
    if (level.bracket = .braces || level.bracket = .keys) && v.isFixed then
      some { level with bracket := .values, item := .empty }
    else none
  | _ => none

/-- What parentheses stand for: a group of one value, or a tuple. -/
def closed? (level : Level) : Option Value :=
  let tuple := fun changes : Bool => if changes then Value.changing else .fixed
  match level.item, level.hasComma with
  | .empty, _ => some (tuple level.changes)
  | .value v, false => some (match v with | .text _ => .fixed | v => v)
  | .value v, true => if v.isWhole then some (tuple (level.changes || !v.isFixed)) else none
  | _, _ => none

/-- What a level stands for when a bracket closes it. -/
def value? (level : Level) (closing : Char) : Option Value :=
  match closing, level.bracket, level.item with
  | ')', .parentheses, _ => level.closed?
  | ')', .setParentheses, .empty => some .changing
  | '\x7d', .braces, .empty => some .changing
  | '\x7d', .braces, .value v => if v.isFixed then some .changing else none
  | '\x7d', .setBraces, .empty => some .changing
  | '\x7d', .setBraces, .value v => if v.isFixed then some .changing else none
  | '\x7d', .keys, .empty => some .changing
  | '\x7d', .values, .value v => if v.isWhole then some .changing else none
  | _, _, _ => none

def isUntouched (level : Level) : Bool :=
  level.item = .empty && !level.hasComma

/-- Whether a literal can end here. -/
def isComplete (level : Level) : Bool :=
  match level.item with
  | .empty => level.hasComma
  | .value v => v.isWhole
  | _ => false

end Level

/-! ## Reading -/

/-- How deep brackets can be nested. -/
def nestingLimit : Nat := 200

/-- How far a literal has been read. -/
structure Reading where
  /-- The level that is being read. -/
  level : Level := ⟨.outermost, false, false, .empty⟩
  /-- The levels around it, the innermost first. -/
  around : List Level := []
  /-- Whether the line starts with blanks before anything has been read. -/
  indented : Bool := false
  /-- Whether the line with the end of the literal is over. -/
  ended : Bool := false
deriving DecidableEq, Repr

namespace Reading

def isUntouched (reading : Reading) : Bool :=
  reading.around.isEmpty && reading.level.isUntouched

def withItem (reading : Reading) (item : Item) : Reading :=
  { reading with level := { reading.level with item } }

def open? (bracket : Bracket) (reading : Reading) : Option Reading :=
  if reading.around.length < nestingLimit then
    some { reading with
      level := ⟨bracket, false, false, .empty⟩
      around := reading.level :: reading.around }
  else none

def close? (closing : Char) (reading : Reading) : Option Reading :=
  match reading.around with
  | [] => none
  | outer :: others => do
    let item ← outer.item.withValue? (← reading.level.value? closing)
    return { reading with level := { outer with item }, around := others }

def addSign? (c : Char) (reading : Reading) : Option Reading :=
  match c, reading.level.item with
  | ',', _ => reading.level.next?.map fun level => { reading with level }
  | ':', _ => reading.level.afterKey?.map fun level => { reading with level }
  | '+', item => item.withSign?.map reading.withItem
  | '-', item => item.withSign?.map reading.withItem
  | '(', .value .setWord => (reading.withItem .empty).open? .setParentheses
  | '(', .value _ => none
  | '(', _ => reading.open? .parentheses
  | '\x7b', .value _ => none
  | '\x7b', _ => reading.open? .braces
  | c, _ => reading.close? c

/-- A line end counts only outside brackets. Before the literal it starts a new line; after it, it
ends what can be read. -/
def endLine? (reading : Reading) : Option Reading :=
  if !reading.around.isEmpty then some reading
  else if reading.level.isUntouched then some { reading with indented := false }
  else if reading.level.isComplete then some { reading with ended := true }
  else none

/-- Reads a token that belongs to the literal; blanks cannot stand before its first. -/
def addToken? (token : Token) (reading : Reading) : Option Reading :=
  if reading.ended || (reading.isUntouched && reading.indented) then none
  else
    match token with
    | .number n => (reading.level.item.withValue? (.number n false)).map reading.withItem
    | .text ofBytes => (reading.level.item.withText? ofBytes).map reading.withItem
    | .constant => (reading.level.item.withValue? .fixed).map reading.withItem
    | .setWord => (reading.level.item.withValue? .setWord).map reading.withItem
    | .sign c => reading.addSign? c
    | _ => some reading

def add? (reading : Reading) : Token → Option Reading
  | .blank => some { reading with indented := reading.indented || reading.isUntouched }
  | .formFeed => some { reading with indented := false }
  | .lineJoin => some reading
  | .lineEnd => if reading.ended then some reading else reading.endLine?
  | token => reading.addToken? token

end Reading

end Literal

/-- Whether a text is a literal. -/
def isLiteral (text : List Char) : Bool :=
  !text.contains '\x00' &&
    match Literal.tokens? (Text.unifyLineEnds text) with
    | none => false
    | some tokens =>
      match tokens.foldlM Literal.Reading.add? {} with
      | none => false
      | some reading => reading.around.isEmpty && reading.level.isComplete

end TabCompletion.Screen
