/-! # Namespace names

Names are qualified by `::`; two or more colons in a row count as one separator. -/

namespace TabCompletion.Namespace

/-- The global namespace. -/
def root : String := "::"

/-- A namespace that was left out, or is empty, is the global one. -/
def orRoot : Option String → String
  | none => root
  | some ns => if ns = "" then root else ns

theorem orRoot_ne_empty (ns : Option String) : orRoot ns ≠ "" := by
  unfold orRoot
  split
  · decide
  · split
    · decide
    · assumption

/-- A name without the colons at its end. -/
def trimColons (name : String) : String :=
  String.ofList (name.toList.reverse.dropWhile (· == ':')).reverse

/-- What follows the first pair of colons. -/
def afterPair? : List Char → Option (List Char)
  | ':' :: ':' :: rest => some rest
  | _ :: rest => afterPair? rest
  | [] => none

/-- The qualifiers of a name: all that stands before its last separator, or nothing if it has
none. -/
def qualifiers (name : String) : String :=
  match afterPair? name.toList.reverse with
  | none => ""
  | some before => String.ofList (before.dropWhile (· == ':')).reverse

end TabCompletion.Namespace
