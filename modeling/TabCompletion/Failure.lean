import TabCompletion.Files.Tree
import TabCompletion.Text.Quoted

/-! # What can go wrong -/

namespace TabCompletion

/-- An interpreter's refusal of a command. -/
structure Rejection where
  message : String
  /-- The words of the command that failed. -/
  words : List String
  /-- The path of the interpreter in which it failed. -/
  interp : String
  /-- The text of the failure underneath, if there was one. -/
  cause : Option String
deriving DecidableEq, Repr

/-- What a user is told: the failure underneath says it without the command. -/
def Rejection.reason (r : Rejection) : String :=
  r.cause.getD r.message

inductive Failure
  /-- The interpreter refused a command. -/
  | rejected (r : Rejection)
  /-- The embedding of the interpreter failed outside the run of a command. -/
  | binding (message : String)
  /-- There is no object system of this name. -/
  | noSuchSystem (name : String)
  /-- The object system does not say how its methods are listed. -/
  | noLookup
  /-- A scope cannot be changed in place. -/
  | frozen (field : String)
  /-- An object was asked for its methods and is not known. -/
  | noSuchObject (name : String)
  /-- A command without words was sent. -/
  | noWords
  /-- A truth value was read as a list. -/
  | notAList
  /-- A file could not be used. -/
  | file (fault : FileFault)
  /-- The interpreter cannot do what was asked at all. -/
  | unable
deriving DecidableEq, Repr

def Failure.message : Failure → String
  | .rejected r => r.message
  | .binding message => message
  | .noSuchSystem name => "no object system named " ++ name
  | .noLookup => ""
  | .frozen field => "cannot assign to field " ++ Text.quoted field
  | .noSuchObject name => "no object named " ++ name
  | .noWords => "empty command"
  | .notAList => "a truth value is not a list"
  | .file fault => fault.message
  | .unable => "not available in this interpreter"

/-- The families of failures that a caller can tell apart. -/
inductive Failure.Family
  | completion
  | interpreter
  | configuration
deriving DecidableEq, Repr

/-- A family and the families it belongs to, the most specific first. -/
def Failure.Family.lineage : Failure.Family → List Failure.Family
  | .completion => [.completion]
  | family => [family, .completion]

end TabCompletion
