import TabCompletion.World

/-! # Scripts in a world

A world runs scripts of one statement a line. The statements are just enough to change what
completion can see. -/

namespace TabCompletion.World

/-- An entry of a list of pairs under a name, changed if the name is there, else added at the
end. -/
def upsert {α : Type} (name : String) (change : Option α → α) : List (String × α) →
    List (String × α)
  | [] => [(name, change none)]
  | (key, value) :: rest =>
    if key = name then (key, change (some value)) :: rest
    else (key, value) :: upsert name change rest

/-- A list under a name with one item more. -/
def addItem (name item : String) : List (String × List String) → List (String × List String) :=
  upsert name fun items => items.getD [] ++ [item]

/-- Runs one statement, given by its words; a failing statement changes nothing. -/
def statement (w : World) : List String → Except String (String × World)
  | "proc" :: name :: _ => .ok ("", { w with commands := w.commands ++ [name] })
  | ["set", name, value] =>
    .ok (value, { w with scalars := upsert name (fun _ => value) w.scalars })
  | ["set", name] =>
    match w.scalars.lookup name with
    | some value => .ok (value, w)
    | none => .error ("can\x27t read \"" ++ name ++ "\": no such variable")
  | ["unset", name] =>
    if (w.scalars.lookup name).isSome then
      .ok ("", { w with scalars := w.scalars.filter fun entry => entry.1 ≠ name })
    else
      .error "invalid command name \"unset\""
  | ["element", array, element] =>
    .ok ("", { w with arrays := addItem array element w.arrays })
  | ["namespace", name] => .ok ("", { w with namespaces := w.namespaces ++ [name] })
  | ["method", object, method] => .ok ("", { w with oo := addItem object method w.oo })
  | "echo" :: words => .ok (" ".intercalate words, w)
  | "fail" :: words => .error (" ".intercalate words)
  | first :: _ => .error ("invalid command name \"" ++ first ++ "\"")
  | [] => .ok ("", w)

/-- Runs statements in order; the result is that of the last one. An error stops the run and leaves
what was done before it. -/
def statements (w : World) (result : String) : List (List String) → Except String String × World
  | [] => (.ok result, w)
  | words :: rest =>
    match w.statement words with
    | .ok (value, next) => next.statements value rest
    | .error message => (.error message, w)

def separatesWords (c : Char) : Bool :=
  c == ' ' || c == '\t'

/-- The statements of a script, each as its words; lines without words are none. -/
def parse (script : String) : List (List String) :=
  ((Text.piecesBy (· == '\n') script).map (Text.piecesBy separatesWords)).filter fun words =>
    !words.isEmpty

/-- Runs a script; an error is not told of a command. -/
def runScript (w : World) (script : String) : Except Failure String × World :=
  let result := w.statements "" (parse script)
  (result.1.mapError (refuse []), result.2)

/-- Whether braces and brackets are as often closed as opened, and quotes come in pairs. -/
def balanced (script : String) : Bool :=
  let cs := script.toList
  cs.count '{' == cs.count '}' && cs.count '[' == cs.count ']' && cs.count '"' % 2 == 0

def enter (w : World) (ns : String) : World :=
  if w.namespaces.contains ns then w else { w with namespaces := w.namespaces ++ [ns] }

/-- Runs a script in a namespace, which is created if it does not exist. -/
def evaluate (w : World) (interp ns script : String) : Except Failure String × World :=
  let logged := w.log ⟨interp, ns, ["evaluate", script]⟩
  if w.interps.contains interp then (logged.enter ns).runScript script
  else (.error (missingInterp [] interp), logged)

/-- Runs a script file. The path is taken as it is, and so are the characters of the file: only
`\n` ends a statement. -/
def source (w : World) (path interp : String) : Except Failure String × World :=
  let logged := w.log ⟨interp, Namespace.root, ["source", path]⟩
  if w.interps.contains interp then
    match w.files.textAt? (Path.ofString path) with
    | .ok (some script) => logged.runScript script
    | .ok none =>
      (.error (refuse [] ("couldn\x27t read file \"" ++ path ++ "\": no such file or directory")),
        logged)
    | .error fault => (.error (.file fault), logged)
  else
    (.error (missingInterp [] interp), logged)

/-- Loads a package, which answers its version. -/
def require (w : World) (package interp : String) : Except Failure String × World :=
  let logged := w.log ⟨interp, Namespace.root, ["require", package]⟩
  if w.interps.contains interp then
    match w.packages.lookup package with
    | some version => (.ok version, logged)
    | none => (.error (refuse [] ("can\x27t find package " ++ package)), logged)
  else
    (.error (missingInterp [] interp), logged)

end TabCompletion.World
