import TabCompletion.Files.Tree
import TabCompletion.Glob
import TabCompletion.Namespace
import TabCompletion.Request
import TabCompletion.Text.Blank

/-! # Worlds

A world is an interpreter reduced to what completion can see of it: the names that exist, and the
objects with their methods. It answers the queries of the lookups from plain data. -/

namespace TabCompletion

/-- Objects with their methods. -/
abbrev Objects : Type := List (String × List String)

structure World where
  commands : List String := []
  /-- Variables that are no arrays with their values, in order of creation. -/
  scalars : List (String × String) := []
  /-- Arrays with the names of their elements, in order of creation. -/
  arrays : List (String × List String) := []
  oo : Objects := []
  /-- Nothing if the extension is not loaded. -/
  nsf : Option Objects := none
  /-- Nothing if the extension is not loaded. -/
  xotcl : Option Objects := none
  namespaces : List String := [Namespace.root]
  /-- The paths of the interpreters that exist. -/
  interps : List String := [""]
  /-- The packages that can be loaded, with their versions. -/
  packages : List (String × String) := []
  files : Files.Tree := .empty
  /-- What was asked of the world so far. -/
  calls : List Call := []

namespace World

/-- A refusal that tells of a command. -/
def refuse (words : List String) (message : String) : Failure :=
  .rejected ⟨message, words, "", none⟩

/-! ## Names -/

/-- The names that a name may stand for in a namespace: an absolute name only for itself, any other
for a name in that namespace or else in the global one. -/
def readings (ns name : String) : List String :=
  if Text.beginsWith "::" name then [name]
  else [Namespace.trimColons ns ++ "::" ++ name, "::" ++ name]

/-- The namespace that a name stands for. -/
def qualify? (w : World) (ns name : String) : Option String :=
  (readings ns name).find? w.namespaces.contains

/-- The names of variables, the scalar ones first. -/
def variableNames (w : World) : List String :=
  w.scalars.map Prod.fst ++ w.arrays.map Prod.fst

/-- The namespaces directly inside another that match a pattern. The parent counts with and without
the colons at its end. -/
def childNamespaces (w : World) (parent pattern : String) : List String :=
  w.namespaces.filter fun ns =>
    ns ≠ Namespace.root
      && [parent, Namespace.trimColons parent].contains (Namespace.qualifiers ns)
      && Glob.admits pattern ns

/-! ## Answers -/

def texts (names : List String) : Value :=
  .list (names.map .text)

def matching (pattern : String) (names : List String) : Value :=
  texts (names.filter (Glob.admits pattern))

/-- What the commands answer that every interpreter has. -/
def coreAnswer? (w : World) (ns : String) (words : List String) :
    Option (Except Failure Value) :=
  match words with
  | ["::info", "commands", pattern] => some (.ok (matching pattern w.commands))
  | ["::info", "vars", pattern] => some (.ok (matching pattern w.variableNames))
  | ["::array", "names", array, pattern] =>
    some (.ok (matching pattern ((w.arrays.lookup array).getD [])))
  | ["::set", name] =>
    match w.scalars.lookup name with
    | some value => some (.ok (.text value))
    | none => some (.error (refuse words ("can\x27t read \"" ++ name ++ "\": no such variable")))
  | ["::info", "object", "isa", "object", object] =>
    some (.ok (.truth (w.oo.lookup object).isSome))
  | ["::info", "object", "methods", object, "-all"] =>
    match w.oo.lookup object with
    | some methods => some (.ok (texts methods))
    | none => some (.error (.noSuchObject object))
  | ["::info", "exists", "::xotcl::version"] => some (.ok (.truth w.xotcl.isSome))
  | ["::namespace", "children", parent, pattern] =>
    some (.ok (texts (w.childNamespaces parent pattern)))
  | ["::namespace", "exists", name] => some (.ok (.truth (w.qualify? ns name).isSome))
  | ["::namespace", "inscope", name, "::namespace current"] =>
    match w.qualify? ns name with
    | some qualified => some (.ok (.text qualified))
    | none => some (.error (refuse words ("namespace \"" ++ name ++ "\" not found")))
  | _ => none

/-- What the commands of a loaded extension answer, and the objects of an extension, which are
commands themselves. -/
def extensionAnswer? (w : World) (words : List String) : Option Value :=
  match words with
  | ["::xotcl::Object", "isobject", object] =>
    w.xotcl.map fun objects => .truth (objects.lookup object).isSome
  | ["::nsf::object::exists", object] =>
    w.nsf.map fun objects => .truth (objects.lookup object).isSome
  | object :: "::nsf::methods::object::info::lookupmethods" :: option :: options => do
    let methods ← (← w.nsf).lookup object
    return matching ((option :: options).getLastD "") methods
  | [object, "info", "methods", pattern] => do
    let methods ← (← w.xotcl).lookup object
    return matching pattern methods
  | _ => none

/-- The answer to a command in a namespace that exists. -/
def answer (w : World) (ns : String) (words : List String) : Except Failure Value :=
  match w.coreAnswer? ns words with
  | some result => result
  | none =>
    match w.extensionAnswer? words, words with
    | some value, _ => .ok value
    | none, [] => .error .noWords
    | none, first :: _ => .error (refuse words ("invalid command name \"" ++ first ++ "\""))

/-! ## Queries -/

def log (w : World) (call : Call) : World :=
  { w with calls := w.calls ++ [call] }

/-- The failure of anything asked of an interpreter that does not exist. -/
def missingInterp (words : List String) (interp : String) : Failure :=
  refuse words ("could not find interpreter \"" ++ interp ++ "\"")

/-- Answers a query; but for the record of the call, the world stays as it is. -/
def look (w : World) (call : Call) : Except Failure Value × World :=
  (if ¬ w.interps.contains call.interp then
      .error (missingInterp call.words call.interp)
    else if ¬ w.namespaces.contains call.ns then
      .error (refuse call.words ("namespace \"" ++ call.ns ++ "\" not found"))
    else
      w.answer call.ns call.words,
    w.log call)

end World

end TabCompletion
