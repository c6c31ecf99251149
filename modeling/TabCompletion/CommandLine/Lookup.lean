import TabCompletion.CommandLine.Command
import TabCompletion.Json.Text
import TabCompletion.Lookup.Methods
import TabCompletion.Screen.Escapes
import TabCompletion.Shell

/-! # Lookups from the command line -/

namespace TabCompletion

namespace CommandLine

/-- What keeps a lookup from being printed. -/
inductive Hindrance
  /-- A script that does not exist was named. -/
  | noScript (path : Path)
  /-- The interpreter refused a command. -/
  | refused (r : Rejection)
deriving DecidableEq, Repr

def Subject.lookup (scope : Scope) : Subject → Dialogue Offer
  | .commands typed => Lookup.commands scope typed
  | .vars typed => Lookup.vars scope typed
  | .methods system receiver typed => Lookup.methods scope typed (.known system) receiver

/-- Runs scripts in order, each in the main interpreter. A script is looked for only when its turn
has come, and the first that is missing ends the run. -/
def sourceAll (files : Files.Tree) : List Path → Dialogue (Option Hindrance)
  | [] => return none
  | path :: rest =>
    match files.present path with
    | .error fault => .fail (.file fault)
    | .ok false => return some (.noScript path)
    | .ok true => do
      let _ ← Dialogue.source path ""
      sourceAll files rest

/-- Runs the scripts of an order, and then looks up what was ordered. -/
def LookupOrder.attempt (files : Files.Tree) (order : LookupOrder) :
    Dialogue (Except Hindrance Offer) := do
  match ← sourceAll files order.scripts with
  | some hindrance => return .error hindrance
  | none =>
    let offer ← order.subject.lookup (Scope.of (some order.interp) (some order.ns))
    return .ok offer

/-- Carries out an order; a refused command is a hindrance like any other. -/
def LookupOrder.carryOut (files : Files.Tree) (order : LookupOrder) :
    Dialogue (Except Hindrance Offer) :=
  (order.attempt files).rescue fun r => return .error (.refused r)

/-- The text in which an offer is printed as JSON. -/
def printedAsJson (offer : Offer) : String :=
  offer.toJson ++ "\n"

/-- The line with the stem of an offer. -/
def printedStem (offer : Offer) : String :=
  Screen.withoutControlSequences offer.common ++ "\n"

end CommandLine

end TabCompletion
