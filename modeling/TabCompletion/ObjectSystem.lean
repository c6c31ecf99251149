/-! # Object systems -/

namespace TabCompletion

/-- The object systems whose methods may be asked for. -/
inductive ObjectSystem
  | ensemble
  | oo
  | snit
  | nsf
  | xotcl
deriving DecidableEq, Repr, Inhabited

namespace ObjectSystem

def all : List ObjectSystem := [ensemble, oo, snit, nsf, xotcl]

def name : ObjectSystem → String
  | ensemble => "ensemble"
  | oo => "oo"
  | snit => "snit"
  | nsf => "nsf"
  | xotcl => "xotcl"

def ofName? (name : String) : Option ObjectSystem :=
  all.find? fun system => system.name == name

theorem ofName?_name (system : ObjectSystem) : ofName? system.name = some system := by
  cases system <;> decide

theorem name_of_ofName? {name : String} {system : ObjectSystem} (h : ofName? name = some system) :
    system.name = name := by
  unfold ofName? at h
  simpa using List.find?_some h

/-- A system named by a user, who may name one that does not exist. -/
inductive Tag
  | known (system : ObjectSystem)
  | unknown (name : String)
deriving DecidableEq, Repr

namespace Tag

def name : Tag → String
  | known system => system.name
  | unknown name => name

def ofName (name : String) : Tag :=
  match ofName? name with
  | some system => known system
  | none => unknown name

end Tag

/-- The systems tried, in this order, when nothing tells which one an object belongs to. -/
def usual : List ObjectSystem := [oo, nsf, xotcl]

/-- The usual systems stand in for an empty choice. -/
def orUsual (tags : List Tag) : List Tag :=
  if tags.isEmpty then usual.map .known else tags

end ObjectSystem

end TabCompletion
