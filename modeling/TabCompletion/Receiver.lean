import TabCompletion.Dialogue
import TabCompletion.Scope

/-! # The receiver of a method -/

namespace TabCompletion

/-- Puts a query about a scope: the words run there and nowhere else. -/
def Scope.query (scope : Scope) (kind : Kind) (words : List String) : Dialogue kind.Answer :=
  Dialogue.query kind ⟨scope.interp, scope.ns, words⟩

/-- The object whose methods are completed, as it was typed. -/
inductive Receiver
  /-- The object of this name. -/
  | named (name : String)
  /-- The object whose name the variable holds. -/
  | heldBy (holder : String)
deriving DecidableEq, Repr

namespace Receiver

/-- A leading `$` refers to a variable. -/
def ofToken (token : String) : Receiver :=
  match token.toList with
  | '$' :: name => heldBy (String.ofList name)
  | _ => named token

/-- The name of the object. The value of a variable is taken as a name, whatever it looks like. -/
def objectName (scope : Scope) : Receiver → Dialogue String
  | named name => pure name
  | heldBy holder => scope.query .value ["::set", holder]

end Receiver

end TabCompletion
