import TabCompletion.Data
import TabCompletion.Text.Numeral
import TabCompletion.Toml.Reading

/-! # Numbers, dates and times of TOML -/

namespace TabCompletion.Toml

open Text (digits? digitLimit isBinaryDigit isHexDigit isOctalDigit numeral)

/-! ## Numbers -/

/-- An integer in base sixteen, two or eight. -/
def prefixed? : List Char → Option (List Char × List Char)
  | '0' :: 'x' :: cs => (digits? isHexDigit cs).map fun (ds, rest) => ('0' :: 'x' :: ds, rest)
  | '0' :: 'b' :: cs => (digits? isBinaryDigit cs).map fun (ds, rest) => ('0' :: 'b' :: ds, rest)
  | '0' :: 'o' :: cs => (digits? isOctalDigit cs).map fun (ds, rest) => ('0' :: 'o' :: ds, rest)
  | _ => none

def sign : List Char → List Char × List Char
  | '+' :: cs => (['+'], cs)
  | '-' :: cs => (['-'], cs)
  | cs => ([], cs)

/-- The integer part of a decimal number; a zero stands alone. -/
def whole? : List Char → Option (List Char × List Char)
  | '0' :: cs => some (['0'], cs)
  | cs => digits? Char.isDigit cs

def fraction (cs : List Char) : List Char × List Char :=
  match cs with
  | '.' :: more =>
    match digits? Char.isDigit more with
    | some (digits, rest) => ('.' :: digits, rest)
    | none => ([], cs)
  | _ => ([], cs)

def exponent (cs : List Char) : List Char × List Char :=
  match cs with
  | c :: more =>
    if c = 'e' ∨ c = 'E' then
      let (s, unsigned) := sign more
      match digits? Char.isDigit unsigned with
      | some (digits, rest) => (c :: s ++ digits, rest)
      | none => ([], cs)
    else
      ([], cs)
  | [] => ([], cs)

def decimal? (cs : List Char) : Option (Except Fault (Data × List Char)) := do
  let (s, unsigned) := sign cs
  let (digits, more) ← whole? unsigned
  let (part, afterPart) := fraction more
  let (power, rest) := exponent afterPart
  if part.isEmpty && power.isEmpty && (digits.filter (· ≠ '_')).length > digitLimit then
    return .error .numberTooLong
  else
    return .ok (.number (String.ofList (s ++ digits ++ part ++ power)), rest)

def number? (cs : List Char) : Option (Except Fault (Data × List Char)) :=
  match prefixed? cs with
  | some (literal, rest) => some (.ok (.number (String.ofList literal), rest))
  | none => decimal? cs

/-- The numbers that have no digits. -/
def special? (cs : List Char) : Option (Data × List Char) :=
  let (s, unsigned) := sign cs
  ["inf", "nan"].findSome? fun word =>
    (after? word.toList unsigned).map fun rest => (.number (String.ofList s ++ word), rest)

/-! ## Dates and times -/

def inRange (low high : Nat) (digits : List Char) : Bool :=
  digits.all Char.isDigit && low ≤ numeral 10 digits && numeral 10 digits ≤ high

def isLeapYear (year : Nat) : Bool :=
  year % 4 == 0 && (year % 100 != 0 || year % 400 == 0)

def daysIn (year month : Nat) : Nat :=
  if month = 2 then if isLeapYear year then 29 else 28
  else if [4, 6, 9, 11].contains month then 30
  else 31

/-- The fraction of a second. -/
def secondFraction (cs : List Char) : List Char × List Char :=
  match cs with
  | '.' :: more =>
    match more.takeWhile Char.isDigit with
    | [] => ([], cs)
    | digits => ('.' :: digits, more.dropWhile Char.isDigit)
  | _ => ([], cs)

def time? : List Char → Option (List Char × List Char)
  | h₁ :: h₂ :: ':' :: m₁ :: m₂ :: ':' :: s₁ :: s₂ :: cs =>
    if inRange 0 23 [h₁, h₂] && inRange 0 59 [m₁, m₂] && inRange 0 59 [s₁, s₂] then
      let (part, rest) := secondFraction cs
      some ([h₁, h₂, ':', m₁, m₂, ':', s₁, s₂] ++ part, rest)
    else
      none
  | _ => none

/-- The distance from universal time. -/
def offset (cs : List Char) : List Char × List Char :=
  match cs with
  | 'Z' :: rest => (['Z'], rest)
  | 'z' :: rest => (['z'], rest)
  | s :: h₁ :: h₂ :: ':' :: m₁ :: m₂ :: rest =>
    if (s = '+' ∨ s = '-') ∧ inRange 0 23 [h₁, h₂] ∧ inRange 0 59 [m₁, m₂] then
      ([s, h₁, h₂, ':', m₁, m₂], rest)
    else
      ([], cs)
  | _ => ([], cs)

/-- The time after a date. -/
def timeAfterDate (cs : List Char) : List Char × List Char :=
  match cs with
  | c :: more =>
    if c = 'T' ∨ c = 't' ∨ c = ' ' then
      match time? more with
      | some (time, afterTime) =>
        let (zone, rest) := offset afterTime
        (c :: time ++ zone, rest)
      | none => ([], cs)
    else
      ([], cs)
  | [] => ([], cs)

/-- A date, with or without a time. What has the form of a date must be a day of the calendar. -/
def date? : List Char → Option (Except Fault (Data × List Char))
  | y₁ :: y₂ :: y₃ :: y₄ :: '-' :: m₁ :: m₂ :: '-' :: d₁ :: d₂ :: cs =>
    if [y₁, y₂, y₃, y₄].all Char.isDigit && inRange 1 12 [m₁, m₂] && inRange 1 31 [d₁, d₂] then
      let year := numeral 10 [y₁, y₂, y₃, y₄]
      let (time, rest) := timeAfterDate cs
      if year ≥ 1 ∧ numeral 10 [d₁, d₂] ≤ daysIn year (numeral 10 [m₁, m₂]) then
        some (.ok (.moment (String.ofList
          ([y₁, y₂, y₃, y₄, '-', m₁, m₂, '-', d₁, d₂] ++ time)), rest))
      else
        some (.error .malformed)
    else
      none
  | _ => none

/-! ## Scalars -/

/-- A value that is neither a text nor holds other values. -/
def scalar : Reader Data := fun cs =>
  match after? "true".toList cs, after? "false".toList cs with
  | some rest, _ => .ok (.flag true, rest)
  | _, some rest => .ok (.flag false, rest)
  | none, none =>
    match date? cs with
    | some result => result
    | none =>
      match time? cs with
      | some (literal, rest) => .ok (.moment (String.ofList literal), rest)
      | none =>
        match number? cs with
        | some result => result
        | none =>
          match special? cs with
          | some result => .ok result
          | none => .error .malformed

end TabCompletion.Toml
