import TabCompletion.Screen.Action
import TabCompletion.Screen.Look
import TabCompletion.Screen.Pictogram
import TabCompletion.Screen.Shown

/-! # Markup

Tags in square brackets say how the text between them looks. What is shown is the text without the
tags, if every closing tag has an opening one that it closes. A look that cannot be drawn is a fault
only where it is drawn, so that the stretches that ask for one are kept. -/

namespace TabCompletion.Screen

/-- Why a marked-up text cannot be shown. -/
inductive Fault
  /-- A tag closes what was not opened. -/
  | unopened
  /-- What a tag does when it is clicked is not well written. -/
  | badAction
  /-- A number of a colour is missing, or too long to be read. -/
  | noNumber
deriving DecidableEq, Repr

/-! ## Tags -/

structure Tag where
  name : String
  /-- What follows an equals sign. -/
  parameters : Option String
deriving DecidableEq, Repr

namespace Tag

/-- The tag that is written with some characters in brackets. -/
def ofBody (body : List Char) : Tag :=
  match body.dropWhile (· ≠ '=') with
  | [] => ⟨String.ofList body, none⟩
  | _ :: parameters => ⟨String.ofList (body.takeWhile (· ≠ '=')), some (String.ofList parameters)⟩

/-- Whether the look that a tag asks for lacks a number of a colour. What follows the equals sign
belongs to the look. -/
def lacksNumber (tag : Tag) : Bool :=
  Look.lacksNumber (tag.name ++ " " ++ tag.parameters.getD "")

/-- Whether a tag is for an action, and not for a look. -/
def isForAction (tag : Tag) : Bool :=
  Text.beginsWith "@" tag.name

end Tag

/-! ## Marks -/

/-- A bracketed body with the backslashes in front of it. -/
structure Mark where
  slashes : Nat
  body : List Char
deriving DecidableEq, Repr

namespace Mark

/-- The characters with which a tag can start. -/
def startsTag (c : Char) : Bool :=
  ('a' ≤ c && c ≤ 'z') || ['#', '/', '@'].contains c

def recognise : Text.Recogniser Mark := fun cs =>
  let slashes := (cs.takeWhile (· = '\\')).length
  match cs.drop slashes with
  | '[' :: c :: rest =>
    let body := rest.takeWhile fun d => d ≠ '[' && d ≠ ']'
    match startsTag c, rest.drop body.length with
    | true, ']' :: _ => some (⟨slashes, c :: body⟩, slashes + body.length + 2)
    | _, _ => none
  | _ => none

/-- Two backslashes stand for one. -/
def shownSlashes (mark : Mark) : List Char :=
  List.replicate (mark.slashes / 2) '\\'

/-- A single backslash makes a text of what would be a tag. -/
def isText (mark : Mark) : Bool :=
  mark.slashes % 2 == 1

end Mark

/-! ## Texts -/

/-- A backslash before a bracket only says that no tag starts there. -/
def unescape : List Char → List Char
  | '\\' :: '[' :: cs => '[' :: unescape cs
  | c :: cs => c :: unescape cs
  | [] => []

/-- Controls that move the cursor or ring the bell are not shown. -/
def isDropped (c : Char) : Bool :=
  [0x07, 0x08, 0x0b, 0x0c, 0x0d].contains c.toNat

/-- What is shown of a text without tags. -/
def shownRun (cs : List Char) : List Char :=
  (withPictograms (unescape cs)).filter fun c => !isDropped c

/-! ## Drawing -/

/-- A tag that is open, and how many characters are shown before it. -/
structure Opened where
  tag : Tag
  start : Nat
deriving DecidableEq, Repr

/-- What has been drawn of a text so far. -/
structure Drawing where
  text : List Char := []
  /-- The tags that are open, the innermost first. -/
  opened : List Opened := []
  /-- The stretches whose looks cannot be drawn, each from its start up to its end. -/
  flaws : List (Nat × Nat) := []
deriving DecidableEq, Repr

namespace Drawing

def write (drawing : Drawing) (cs : List Char) : Drawing :=
  { drawing with text := drawing.text ++ cs }

/-- The stretch from an open tag to here, if its look cannot be drawn. -/
def flaw? (drawing : Drawing) (opened : Opened) : Option (Nat × Nat) :=
  if opened.tag.lacksNumber then some (opened.start, drawing.text.length) else none

/-- The drawing once an open tag has been closed. It is then that an action must be well written. -/
def close (drawing : Drawing) (closed : Opened) : Except Fault Drawing :=
  if closed.tag.isForAction then
    if closed.tag.parameters.all isAction then .ok drawing else .error .badAction
  else .ok { drawing with flaws := (drawing.flaw? closed).toList ++ drawing.flaws }

/-- The drawing after a closing tag. Without a name it closes the innermost tag, and with one the
innermost of that name. -/
def closeNamed (drawing : Drawing) (closing : String) : Except Fault Drawing :=
  if closing = "" then
    match drawing.opened with
    | [] => .error .unopened
    | innermost :: others => { drawing with opened := others }.close innermost
  else
    match Look.normalName? closing with
    | none => .error .noNumber
    | some name =>
      match drawing.opened.find? (·.tag.name == name) with
      | none => .error .unopened
      | some closed =>
        { drawing with opened := drawing.opened.eraseP (·.tag.name == name) }.close closed

def openTag (drawing : Drawing) (tag : Tag) : Except Fault Drawing :=
  match Look.normalName? tag.name with
  | none => .error .noNumber
  | some name =>
    .ok { drawing with opened := ⟨⟨name, tag.parameters⟩, drawing.text.length⟩ :: drawing.opened }

def addTag (drawing : Drawing) (tag : Tag) : Except Fault Drawing :=
  match tag.name.toList with
  | '/' :: closing => drawing.closeNamed (Text.trimBlanks (String.ofList closing))
  | _ => drawing.openTag tag

def add (drawing : Drawing) : Text.Part Mark → Except Fault Drawing
  | .run cs => .ok (drawing.write (shownRun cs))
  | .piece mark =>
    let drawing := drawing.write mark.shownSlashes
    if mark.isText then .ok (drawing.write (shownRun ('[' :: mark.body ++ [']'])))
    else drawing.addTag (Tag.ofBody mark.body)

/-- What is shown in the end; a tag that is still open reaches to the end of the text. -/
def shown (drawing : Drawing) : Shown :=
  .ofFlaws drawing.text (drawing.opened.filterMap drawing.flaw? ++ drawing.flaws)

end Drawing

/-- What is shown of a marked-up text. -/
def shown (text : String) : Except Fault Shown :=
  Drawing.shown <$> (Text.parts Mark.recognise text.toList).foldlM Drawing.add {}

end TabCompletion.Screen
