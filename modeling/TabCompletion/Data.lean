/-! # Data

Values as a data format has them: what a configuration is read from. -/

namespace TabCompletion

inductive Data
  | null
  | flag (b : Bool)
  /-- A number, as it was written. -/
  | number (literal : String)
  /-- A date, a time or both, as it was written. -/
  | moment (literal : String)
  | text (s : String)
  | list (items : List Data)
  /-- Keys are distinct and in order of appearance. -/
  | table (entries : List (String × Data))
deriving Repr, Inhabited

namespace Data

def text? : Data → Option String
  | text s => some s
  | _ => none

def texts? : Data → Option (List String)
  | list items => items.mapM text?
  | _ => none

end Data

end TabCompletion
