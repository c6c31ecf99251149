import TabCompletion.Lookup
import TabCompletion.Namespace

/-! # Looking up methods

Every object system has its own way to say which methods an object has. A command whose first word
is an object's name is sent only after the system has confirmed that the object is one of its
own. -/

namespace TabCompletion.Lookup

open Dialogue ObjectSystem

variable (scope : Scope) (object typed : String)

/-- All methods of the object, the inherited ones included; the system takes no pattern. -/
def ooMethods : Dialogue (List String) := do
  let known ← scope.query .flag ["::info", "object", "isa", "object", object]
  if known then
    let found ← scope.query .names ["::info", "object", "methods", object, "-all"]
    return found.filter (Text.beginsWith typed)
  else
    return []

/-- Whether the system's extension is loaded, which shows in one of its commands. -/
def nsfLoaded : Dialogue Bool := do
  let found ← scope.query .names ["::info", "commands", "::nsf::object::exists"]
  return !found.isEmpty

/-- The commands and child namespaces whose absolute name was begun: the system dispatches those
too. -/
def nsfAbsolute : Dialogue (List String) := do
  let pattern := Glob.startingWith typed
  let qualifiers := Namespace.qualifiers typed
  let parent := if qualifiers = "" then Namespace.root else qualifiers
  let found ← scope.query .names ["::info", "commands", pattern]
  let children ← scope.query .names ["::namespace", "children", parent, pattern]
  return found ++ children

def nsfMethods : Dialogue (List String) := do
  if ← nsfLoaded scope then
    if ← scope.query .flag ["::nsf::object::exists", object] then
      if Text.beginsWith "::" typed then
        nsfAbsolute scope typed
      else
        scope.query .names
          [object, "::nsf::methods::object::info::lookupmethods", "-callprotection", "public",
            "-path", "--", Glob.startingWith typed]
    else
      return []
  else
    return []

def xotclMethods : Dialogue (List String) := do
  if ← scope.query .flag ["::info", "exists", "::xotcl::version"] then
    if ← scope.query .flag ["::xotcl::Object", "isobject", object] then
      scope.query .names [object, "info", "methods", Glob.startingWith typed]
    else
      return []
  else
    return []

/-- Nothing is found in a system that cannot be asked yet. -/
def unsupported (system : ObjectSystem) : Dialogue (List String) := do
  note (.systemUnsupported system)
  return []

/-- The lookup of a system that does not say how its methods are listed. -/
def unspecified : Dialogue (List String) :=
  fail .noLookup

/-- The methods that a system names for an object, as it names them. -/
def candidates : ObjectSystem → Dialogue (List String)
  | ensemble => unsupported ensemble
  | oo => ooMethods scope object typed
  | snit => unsupported snit
  | nsf => nsfMethods scope object typed
  | xotcl => xotclMethods scope object typed

/-- The lookup for an object by name; a system that does not exist finds nothing. -/
def methodsOf (tag : Tag) : Dialogue Offer :=
  match tag with
  | .known system => do
    let found ← candidates scope object typed system
    return Offer.ofCandidates typed found
  | .unknown name => do
    note (.systemUnknown name)
    return Offer.nothing typed

/-- The methods of the receiver that begin with what was typed. The receiver is resolved first,
whatever the system. -/
def methods (tag : Tag) (token : String) : Dialogue Offer := do
  let object ← (Receiver.ofToken token).objectName scope
  methodsOf scope object typed tag

/-- Tries one system after the other, until one of them finds something. -/
def firstMethods (token : String) : List Tag → Dialogue Offer
  | [] => return Offer.nothing typed
  | tag :: rest => do
    let offer ← methods scope typed tag token
    if offer.names.isEmpty then firstMethods token rest else return offer

/-- The methods of the receiver in the first system that finds any; the usual systems are tried if
none is named. -/
def anyMethods (token : String) (tags : List Tag) : Dialogue Offer :=
  firstMethods scope typed token (orUsual tags)

end TabCompletion.Lookup
