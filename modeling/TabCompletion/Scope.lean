import TabCompletion.Namespace
import TabCompletion.Failure

/-! # Where a query runs -/

namespace TabCompletion

/-- The place of a query: an interpreter, by its path from the main one, and a namespace in it. -/
structure Scope where
  /-- The path of the interpreter; the empty path is the main one. -/
  interp : String
  ns : String
  ns_ne_empty : ns ≠ "" := by decide
deriving DecidableEq

namespace Scope

/-- An interpreter left out is the main one; a namespace left out or empty is the global one. -/
def of (interp ns : Option String) : Scope :=
  ⟨interp.getD "", Namespace.orRoot ns, Namespace.orRoot_ne_empty ns⟩

/-- The main interpreter's global namespace. -/
def main : Scope := of none none

/-- A namespace of the same interpreter. -/
def within (scope : Scope) (ns : Option String) : Scope :=
  of (some scope.interp) ns

/-- A scope is never changed in place, whatever the field. -/
def assign (_ : Scope) (field : String) : Except Failure Scope :=
  .error (.frozen field)

theorem ns_within {scope : Scope} {ns : String} (h : ns ≠ "") :
    (scope.within (some ns)).ns = ns := by
  simp [within, of, Namespace.orRoot, h]

end Scope

end TabCompletion
