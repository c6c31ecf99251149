import TabCompletion.Text.Quoted

/-! # Values an interpreter hands over -/

namespace TabCompletion

/-- A result of the interpreter before it is read as what was asked for. -/
inductive Value
  | text (s : String)
  | whole (n : Int)
  | truth (b : Bool)
  | list (items : List Value)
  /-- No result at all. -/
  | nothing
deriving Repr, Inhabited

namespace Value

mutual
/-- A value as it is written inside a list: texts are quoted there. -/
def shown : Value → String
  | text s => Text.quoted s
  | whole n => toString n
  | truth b => if b then "True" else "False"
  | list items => "[" ++ ", ".intercalate (shownAll items) ++ "]"
  | nothing => "None"

def shownAll : List Value → List String
  | [] => []
  | item :: rest => shown item :: shownAll rest
end

/-- A value read as a text: texts stand for themselves, all else for its written form. -/
def asText : Value → String
  | text s => s
  | other => other.shown

/-- A value read as a truth value by its weight: the empty text, zero, the empty list and no result
are false. -/
def weight : Value → Bool
  | text s => s ≠ ""
  | whole n => n ≠ 0
  | truth b => b
  | list items => !items.isEmpty
  | nothing => false

end Value

end TabCompletion
