import TabCompletion.Text.Blank

/-! # What a lookup offers

An offer is what the user may type next: the names found, in ascending order, and the stem to which
the typed text can be extended without choosing among them. -/

namespace TabCompletion

open Text

structure Offer where
  /-- The text up to which the names found agree, or what was typed if nothing was found. -/
  common : String
  /-- The names found, ascending by code point. -/
  names : List String
deriving DecidableEq, Repr, Inhabited

/-- The longest text with which both of two texts begin. -/
def meet : List Char → List Char → List Char
  | a :: as, b :: bs => if a = b then a :: meet as bs else []
  | _, _ => []

/-- The longest text with which each of several texts begins. -/
def meetAll : List (List Char) → List Char
  | [] => []
  | first :: rest => rest.foldl meet first

/-- The stem shared by the candidates that begin with what was typed; the typed text itself if
there is no such candidate. -/
def sharedStem (candidates : List String) (typed : String) : String :=
  match candidates.filter (beginsWith typed) with
  | [] => typed
  | found => String.ofList (meetAll (found.map String.toList))

/-- The same names, ascending by code point; equal names are kept. -/
def ascending (names : List String) : List String :=
  names.mergeSort fun a b => decide (a ≤ b)

namespace Offer

/-- Nothing was found, and what was typed stays as it is. -/
def nothing (typed : String) : Offer :=
  ⟨typed, []⟩

/-- A single candidate is offered as it stands, even if it does not begin with what was typed, as a
qualified name need not; of several, only those that do begin with it determine the stem. -/
def ofCandidates (typed : String) (candidates : List String) : Offer :=
  match candidates with
  | [] => nothing typed
  | [only] => ⟨only, [only]⟩
  | many => ⟨sharedStem many typed, ascending many⟩

end Offer

end TabCompletion
