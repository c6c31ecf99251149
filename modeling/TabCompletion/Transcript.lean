import TabCompletion.ObjectSystem
import TabCompletion.Request

/-! # The transcript of a session

All that leaves a session, in order: the lines shown to the user, the notes for the debug log, and
the requests sent to the interpreter with their replies. -/

namespace TabCompletion

/-- One way to go on: a text that takes the place of some characters before the cursor. -/
structure Edit where
  text : String
  /-- How many characters before the cursor the text replaces. -/
  back : Nat
deriving DecidableEq, Repr

/-- The looks that the parts of the screen have. -/
inductive Style
  | plain
  | error
  | fresh
  | continuation
deriving DecidableEq, Repr

def Style.className : Style → String
  | plain => ""
  | error => "class:error"
  | fresh => "class:prompt"
  | continuation => "class:prompt.continuation"

structure Fragment where
  style : Style
  text : String
deriving DecidableEq, Repr

/-- What is noted in the debug log. -/
inductive Note
  | asking (kind : Kind) (call : Call)
  | elementsFound (array : String) (count : Nat) (typed : String)
  | systemUnsupported (system : ObjectSystem)
  | systemUnknown (name : String)
  | completionFailed (r : Rejection)
  | evaluationFailed (r : Rejection)
  | namespaceSwitchFailed (r : Rejection)
  | sourcing (path interp : String)
deriving DecidableEq, Repr

inductive Output
  | noted (note : Note)
  | printed (fragment : Fragment)
  | prompted (fragment : Fragment)
  | offered (edits : List Edit)
deriving DecidableEq, Repr

inductive Event
  | told (output : Output)
  | asked (request : Request) (reply : Except Failure request.Answer)

namespace Event

def request? : Event → Option Request
  | told _ => none
  | asked request _ => some request

def note? : Event → Option Note
  | told (.noted note) => some note
  | _ => none

/-- What the user sees of an event. -/
def shown? : Event → Option Output
  | told (.noted _) => none
  | told output => some output
  | asked .. => none

/-- Whether a keystroke of the user comes with an event. -/
def takesInput : Event → Bool
  | told (.prompted _) => true
  | told (.offered _) => true
  | _ => false

end Event

end TabCompletion
