import TabCompletion.Failure
import TabCompletion.Value

/-! # What an interpreter is asked

Commands are sent as lists of words, never as scripts to be parsed again, so that a name with blanks
or brackets stays one word. -/

namespace TabCompletion

/-- How the result of a query is read. -/
inductive Kind
  | names
  | flag
  | value
deriving DecidableEq, Repr

@[reducible]
def Kind.Answer : Kind → Type
  | names => List String
  | flag => Bool
  | value => String

/-- One command, sent to a namespace of an interpreter. -/
structure Call where
  interp : String
  ns : String
  words : List String
deriving DecidableEq, Repr, Inhabited

inductive Request
  /-- Runs one command that only looks, in an existing namespace. -/
  | query (kind : Kind) (call : Call)
  /-- Runs a script of the user. -/
  | evaluate (interp ns script : String)
  /-- Whether a script is finished, or goes on in the next line. -/
  | isComplete (script : String)
  /-- Runs a script file. -/
  | source (path interp : String)
  /-- Loads a package. -/
  | require (package interp : String)
deriving DecidableEq, Repr

@[reducible]
def Request.Answer : Request → Type
  | query kind _ => kind.Answer
  | evaluate .. => String
  | isComplete _ => Bool
  | source .. => Value
  | require .. => Value

/-- Whoever answers requests, with a state of its own that every request may change. -/
def Host (σ : Type) : Type :=
  (r : Request) → σ → Except Failure r.Answer × σ

end TabCompletion
