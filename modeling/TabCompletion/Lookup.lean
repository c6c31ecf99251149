import TabCompletion.Glob
import TabCompletion.Offer
import TabCompletion.Receiver

/-! # Looking up commands and variables -/

namespace TabCompletion.Lookup

open Dialogue

/-- The commands visible in a scope that begin with what was typed. -/
def commands (scope : Scope) (typed : String) : Dialogue Offer := do
  let found ← scope.query .names ["::info", "commands", Glob.startingWith typed]
  return Offer.ofCandidates typed found

/-- Splits what was typed at its first opening parenthesis: before it stands the name of an array,
after it the beginning of an element. -/
def arrayElement? (typed : String) : Option (String × String) :=
  match typed.toList.span (· ≠ '(') with
  | (_, []) => none
  | (array, _ :: element) => some (String.ofList array, String.ofList element)

/-- How an element is written after the array it belongs to. -/
def elementName (array element : String) : String :=
  array ++ "(" ++ element ++ ")"

/-- A single element is closed; of several, the stem stays open, since the user may type on. -/
def offerElements (typed array element : String) : List String → Offer
  | [] => Offer.nothing typed
  | [only] => ⟨elementName array only, [elementName array only]⟩
  | found =>
    ⟨array ++ "(" ++ sharedStem found element, ascending (found.map (elementName array))⟩

/-- The elements of an array that begin with the part typed after the parenthesis. -/
def elements (scope : Scope) (typed array element : String) : Dialogue Offer := do
  let found ← scope.query .names ["::array", "names", array, Glob.startingWith element]
  note (.elementsFound array found.length element)
  return offerElements typed array element found

/-- The variables visible in a scope that begin with what was typed, or the elements of an array if
an opening parenthesis was typed. -/
def vars (scope : Scope) (typed : String) : Dialogue Offer :=
  match arrayElement? typed with
  | some (array, element) => elements scope typed array element
  | none => do
    let found ← scope.query .names ["::info", "vars", Glob.startingWith typed]
    return Offer.ofCandidates typed found

end TabCompletion.Lookup
