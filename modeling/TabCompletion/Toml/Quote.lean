import TabCompletion.Text.Numeral
import TabCompletion.Toml.Reading

/-! # Quoted texts of TOML -/

namespace TabCompletion.Toml

/-- The character that an escape of hexadecimal digits names. -/
def escaped (digits : List Char) : Except Fault Char :=
  if digits.all Text.isHexDigit then
    if h : (Text.numeral 16 digits).isValidChar then
      .ok (Char.ofNatAux (Text.numeral 16 digits) h)
    else .error .malformed
  else
    .error .malformed

/-- The escapes of a single letter. -/
def shortEscape? : Char → Option Char
  | 'b' => some '\x08'
  | 't' => some '\t'
  | 'n' => some '\n'
  | 'f' => some '\x0c'
  | 'r' => some '\r'
  | '"' => some '"'
  | '\\' => some '\\'
  | _ => none

/-- What the reader of a text over several lines is doing: reading characters, or skipping blanks
after a backslash, first to the end of the line and then to the next character of the text. -/
inductive Mode
  | reading
  | toLineEnd
  | skipping
deriving DecidableEq

/-- The rest of a text in double quotes on one line. -/
def basicRest : Reader (List Char)
  | [] => .error .malformed
  | '"' :: cs => .ok ([], cs)
  | '\\' :: 'u' :: a :: b :: c :: d :: cs => do
    let e ← escaped [a, b, c, d]
    let (text, rest) ← basicRest cs
    return (e :: text, rest)
  | '\\' :: 'U' :: a :: b :: c :: d :: e :: f :: g :: h :: cs => do
    let e ← escaped [a, b, c, d, e, f, g, h]
    let (text, rest) ← basicRest cs
    return (e :: text, rest)
  | '\\' :: c :: cs =>
    match shortEscape? c with
    | none => .error .malformed
    | some e => do
      let (text, rest) ← basicRest cs
      return (e :: text, rest)
  | c :: cs =>
    if c = '\\' || isControl c then .error .malformed
    else do
      let (text, rest) ← basicRest cs
      return (c :: text, rest)

/-- The rest of a text in three double quotes. A backslash at the end of a line skips to the next
character that is no blank. Up to two quotes before the closing ones belong to the text. -/
def longBasicRest : Mode → Reader (List Char)
  | _, [] => .error .malformed
  | .toLineEnd, c :: cs =>
    if isSpace c then longBasicRest .toLineEnd cs
    else if c = '\n' then longBasicRest .skipping cs
    else .error .malformed
  | .skipping, ' ' :: cs => longBasicRest .skipping cs
  | .skipping, '\t' :: cs => longBasicRest .skipping cs
  | .skipping, '\n' :: cs => longBasicRest .skipping cs
  | _, '"' :: '"' :: '"' :: '"' :: '"' :: cs => .ok (['"', '"'], cs)
  | _, '"' :: '"' :: '"' :: '"' :: cs => .ok (['"'], cs)
  | _, '"' :: '"' :: '"' :: cs => .ok ([], cs)
  | _, '\\' :: 'u' :: a :: b :: c :: d :: cs => do
    let e ← escaped [a, b, c, d]
    let (text, rest) ← longBasicRest .reading cs
    return (e :: text, rest)
  | _, '\\' :: 'U' :: a :: b :: c :: d :: e :: f :: g :: h :: cs => do
    let e ← escaped [a, b, c, d, e, f, g, h]
    let (text, rest) ← longBasicRest .reading cs
    return (e :: text, rest)
  | _, '\\' :: ' ' :: cs => longBasicRest .toLineEnd cs
  | _, '\\' :: '\t' :: cs => longBasicRest .toLineEnd cs
  | _, '\\' :: '\n' :: cs => longBasicRest .skipping cs
  | _, '\\' :: c :: cs =>
    match shortEscape? c with
    | none => .error .malformed
    | some e => do
      let (text, rest) ← longBasicRest .reading cs
      return (e :: text, rest)
  | _, c :: cs =>
    if c = '\\' || (isControl c && c ≠ '\n') then .error .malformed
    else do
      let (text, rest) ← longBasicRest .reading cs
      return (c :: text, rest)

/-- The rest of a text in single quotes on one line; it has no escapes. -/
def literalRest : Reader (List Char)
  | [] => .error .malformed
  | c :: cs =>
    if c = '\x27' then .ok ([], cs)
    else if isControl c then .error .malformed
    else do
      let (text, rest) ← literalRest cs
      return (c :: text, rest)

/-- The rest of a text in three single quotes. Up to two quotes before the closing ones belong to
the text. -/
def longLiteralRest : Reader (List Char)
  | '\x27' :: '\x27' :: '\x27' :: '\x27' :: '\x27' :: cs => .ok (['\x27', '\x27'], cs)
  | '\x27' :: '\x27' :: '\x27' :: '\x27' :: cs => .ok (['\x27'], cs)
  | '\x27' :: '\x27' :: '\x27' :: cs => .ok ([], cs)
  | [] => .error .malformed
  | c :: cs =>
    if isControl c && c ≠ '\n' then .error .malformed
    else do
      let (text, rest) ← longLiteralRest cs
      return (c :: text, rest)

/-- A line end right after the opening quotes does not belong to the text. -/
def dropFirstLine : List Char → List Char
  | '\n' :: cs => cs
  | cs => cs

/-- A quoted text on one line, as a key may be written. -/
def shortText? : List Char → Option (Except Fault (List Char × List Char))
  | '"' :: cs => some (basicRest cs)
  | '\x27' :: cs => some (literalRest cs)
  | _ => none

/-- A quoted text of any of the four kinds. -/
def text? : List Char → Option (Except Fault (List Char × List Char))
  | '"' :: '"' :: '"' :: cs => some (longBasicRest .reading (dropFirstLine cs))
  | '\x27' :: '\x27' :: '\x27' :: cs => some (longLiteralRest (dropFirstLine cs))
  | cs => shortText? cs

end TabCompletion.Toml
