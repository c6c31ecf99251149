import Mathlib.Data.List.TakeWhile
import TabCompletion.Offer

/-! # Texts below each other

What several texts begin with in common can be read off column by column: the texts are written
below each other, as far as the shortest of them reaches, and the columns are passed through until
one holds two different characters. -/

namespace TabCompletion

/-- A column of characters that stand below each other, the topmost apart. -/
structure Column where
  head : Char
  below : List Char

namespace Column

/-- Whether only one character occurs in a column. -/
def isUniform (column : Column) : Bool :=
  column.below.all (· == column.head)

/-- A column with one more character at its lower end. -/
def grow (column : Column) (c : Char) : Column :=
  ⟨column.head, column.below ++ [c]⟩

@[simp]
theorem head_grow (column : Column) (c : Char) : (column.grow c).head = column.head :=
  rfl

@[simp]
theorem isUniform_grow (column : Column) (c : Char) :
    (column.grow c).isUniform = (column.isUniform && c == column.head) := by
  simp [isUniform, grow]

end Column

/-- The columns of texts that stand below a first one; the shortest text limits them. -/
def columnsBelow (first : List Char) (rest : List (List Char)) : List Column :=
  rest.foldl (List.zipWith Column.grow) (first.map fun c => ⟨c, []⟩)

/-- The characters of the columns up to the first in which different characters occur. -/
def uniformHeads (columns : List Column) : List Char :=
  (columns.takeWhile Column.isUniform).map Column.head

/-- What some texts begin with in common, column by column. -/
def columnwise : List (List Char) → List Char
  | [] => []
  | first :: rest => uniformHeads (columnsBelow first rest)

/-! ## Columns and pairs -/

theorem uniformHeads_single (text : List Char) :
    uniformHeads (text.map fun c => ⟨c, []⟩) = text := by
  have hall : ∀ column ∈ text.map fun c => (⟨c, []⟩ : Column), column.isUniform = true := by
    simp [Column.isUniform]
  rw [uniformHeads, List.takeWhile_eq_self_iff.mpr hall, List.map_map]
  exact List.map_id text

/-- One more text below the others shortens what they have in common as it would by itself. -/
theorem uniformHeads_grow (columns : List Column) (text : List Char) :
    uniformHeads (List.zipWith Column.grow columns text) = meet (uniformHeads columns) text := by
  induction columns generalizing text with
  | nil => simp [uniformHeads, meet]
  | cons column columns ih =>
      cases text with
      | nil => simp [uniformHeads, meet]
      | cons c text =>
          have htail := ih text
          simp only [uniformHeads] at htail
          by_cases huniform : column.isUniform = true
          · by_cases hc : c = column.head
            · simp [uniformHeads, meet, huniform, hc, htail]
            · simp [uniformHeads, meet, huniform, hc, Ne.symm hc]
          · simp [uniformHeads, meet, huniform]

/-- Comparing column by column comes to the same as comparing one text after the other. -/
theorem columnwise_eq_meetAll (texts : List (List Char)) : columnwise texts = meetAll texts := by
  cases texts with
  | nil => rfl
  | cons first rest =>
      -- the columns grow downwards, so the induction is on the texts not yet written
      have hrest : ∀ columns : List Column,
          uniformHeads (rest.foldl (List.zipWith Column.grow) columns) =
            rest.foldl meet (uniformHeads columns) := by
        induction rest with
        | nil => simp
        | cons text rest ih =>
            intro columns
            rw [List.foldl_cons, List.foldl_cons, ih, uniformHeads_grow]
      rw [columnwise, columnsBelow, hrest, uniformHeads_single, meetAll]

end TabCompletion
