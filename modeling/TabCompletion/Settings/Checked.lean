import TabCompletion.Data
import TabCompletion.Files.Homes

/-! # Checked values

Checking a table of settings goes on after a bad value, so that all bad values are reported at once.
A path whose home directory is not known is no bad value: it ends the check. -/

namespace TabCompletion

/-- What a value should have been. -/
inductive Expected
  | text
  | list
  | systemName
  | path
  /-- A path whose home directory can be asked for. -/
  | home
  | table
deriving DecidableEq, Repr

/-- A bad value: where it is, and what it should have been. A complaint without a field is about the
whole. -/
structure Complaint where
  field : Option String
  /-- The place in the list, if the value is an item of one. -/
  index : Option Nat
  expected : Expected
deriving DecidableEq, Repr

/-- The outcome of a check. -/
inductive Checked (α : Type)
  | good (a : α)
  | bad (complaints : List Complaint)
  | homeless
deriving DecidableEq, Repr

namespace Checked

variable {α β : Type}

protected def map (f : α → β) : Checked α → Checked β
  | good a => good (f a)
  | bad complaints => bad complaints
  | homeless => homeless

/-- Two checks, one after the other: the complaints of both are kept. -/
protected def seq (f : Checked (α → β)) (a : Checked α) : Checked β :=
  match f, a with
  | homeless, _ => homeless
  | _, homeless => homeless
  | bad first, bad second => bad (first ++ second)
  | bad complaints, good _ => bad complaints
  | good _, bad complaints => bad complaints
  | good f, good a => good (f a)

instance : Applicative Checked where
  pure := good
  map := Checked.map
  seq f a := f.seq (a ())

/-- A further check of a good value of a field, which may find no home directory. -/
def housed (field : String) : Checked (Except HomeFault α) → Checked α
  | good (.ok a) => good a
  | good (.error .unknown) => homeless
  | good (.error .holdsNul) => bad [⟨some field, none, .home⟩]
  | bad complaints => bad complaints
  | homeless => homeless

/-! ## Values of a field -/

/-- A value that is to be read as something. -/
def value (read? : Data → Option α) (expected : Expected) (field : String) (data : Data) :
    Checked α :=
  match read? data with
  | some a => good a
  | none => bad [⟨some field, none, expected⟩]

/-- The items of a list, counted from a number on. -/
def items (read? : Data → Option α) (expected : Expected) (field : String) :
    Nat → List Data → Checked (List α)
  | _, [] => good []
  | i, item :: rest =>
    let first : Checked α :=
      match read? item with
      | some a => good a
      | none => bad [⟨some field, some i, expected⟩]
    List.cons <$> first <*> items read? expected field (i + 1) rest

/-- A list all of whose items are to be read as something. -/
def list (read? : Data → Option α) (expected : Expected) (field : String) : Data → Checked (List α)
  | .list found => items read? expected field 0 found
  | _ => bad [⟨some field, none, .list⟩]

end Checked

end TabCompletion
