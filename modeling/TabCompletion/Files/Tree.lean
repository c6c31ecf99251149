import TabCompletion.Files.Path
import TabCompletion.Text.LineEnds

/-! # File trees

A tree of files and directories as a program sees it from its working directory. The directories on
the way up from the working directory, and the root, always exist; all else exists if it was put
there. -/

namespace TabCompletion

/-- What can go wrong with a file. -/
inductive FileFault
  | missing
  | notDirectory
  | isDirectory
  | occupied
  | nameTooLong
  /-- The path holds a NUL character, which no file name can. -/
  | holdsNul
  /-- The bytes are not those of a text. -/
  | notText
deriving DecidableEq, Repr

def FileFault.message : FileFault → String
  | missing => "no such file or directory"
  | notDirectory => "not a directory"
  | isDirectory => "is a directory"
  | occupied => "file exists"
  | nameTooLong => "file name too long"
  | holdsNul => "embedded null character"
  | notText => "not a UTF-8 text"

namespace Files

inductive Entry
  | file (content : ByteArray)
  | directory

/-- The directory from which a place is counted. -/
inductive Base
  | root
  /-- So many levels above the working directory. -/
  | above (levels : Nat)
deriving DecidableEq, Repr

/-- A place in the tree: a base and the names that lead down from it. -/
structure Place where
  base : Base
  names : List String
deriving DecidableEq, Repr

structure Tree where
  /-- What was put into the tree; of two entries for one place the first counts. -/
  entries : List (Place × Entry)

namespace Tree

def empty : Tree := ⟨[]⟩

/-- What is at a place, given by the names on the way to it. -/
def entry? (tree : Tree) (place : Place) : Option Entry :=
  if place.names = [] then some .directory else tree.entries.lookup place

def put (tree : Tree) (place : Place) (entry : Entry) : Tree :=
  ⟨(place, entry) :: tree.entries⟩

/-- The longest name a file can have, and the longest path that can be looked up, in bytes. -/
def nameLimit : Nat := 255

def pathLimit : Nat := 4095

/-! ## Walking -/

def up : Place → Place
  | ⟨.root, []⟩ => ⟨.root, []⟩
  | ⟨.above n, []⟩ => ⟨.above (n + 1), []⟩
  | ⟨base, names⟩ => ⟨base, names.dropLast⟩

/-- One step down, or up for `..`, from a place that must be a directory. The step may lead to a
place at which there is nothing. -/
def step (tree : Tree) (place : Place) (part : String) : Except FileFault Place :=
  match tree.entry? place with
  | none => .error .missing
  | some (.file _) => .error .notDirectory
  | some .directory =>
    if part.utf8ByteSize > nameLimit then .error .nameTooLong
    else if part = ".." then .ok (up place)
    else .ok ⟨place.base, place.names ++ [part]⟩

def start (path : Path) : Place :=
  if path.anchor = .here then ⟨.above 0, []⟩ else ⟨.root, []⟩

/-- The place to which a path leads. -/
def locate (tree : Tree) (path : Path) : Except FileFault Place :=
  if path.text.toList.contains '\x00' then .error .holdsNul
  else if path.text.utf8ByteSize > pathLimit then .error .nameTooLong
  else path.parts.foldlM tree.step (start path)

/-- What is at the end of a path. -/
def find (tree : Tree) (path : Path) : Except FileFault (Place × Entry) := do
  let place ← tree.locate path
  match tree.entry? place with
  | some entry => .ok (place, entry)
  | none => .error .missing

/-- Whether there is anything at a path. A name that is too long for the question to be put is an
error, while a path that cannot lead anywhere leads to nothing. -/
def present (tree : Tree) (path : Path) : Except FileFault Bool :=
  match tree.find path with
  | .ok _ => .ok true
  | .error .nameTooLong => .error .nameTooLong
  | .error _ => .ok false

def isDirectory (tree : Tree) (path : Path) : Bool :=
  match tree.find path with
  | .ok (_, .directory) => true
  | _ => false

/-! ## Reading and writing -/

/-- The text of a file, character for character. -/
def text (tree : Tree) (path : Path) : Except FileFault String := do
  match ← tree.find path with
  | (_, .directory) => .error .isDirectory
  | (_, .file content) =>
    match String.fromUTF8? content with
    | some text => .ok text
    | none => .error .notText

/-- The text of a file with its line ends unified. -/
def read (tree : Tree) (path : Path) : Except FileFault String := do
  let text ← tree.text path
  return String.ofList (Text.unifyLineEnds text.toList)

/-- The text of a regular file, character for character; nothing if there is none at the path. -/
def textAt? (tree : Tree) (path : Path) : Except FileFault (Option String) :=
  match tree.find path with
  | .ok (_, .file _) => some <$> tree.text path
  | _ => .ok none

def makeDirectory (tree : Tree) (path : Path) : Except FileFault Tree := do
  let place ← tree.locate path
  match tree.entry? place with
  | some _ => .error .occupied
  | none => .ok (tree.put place .directory)

/-- Makes a directory that may exist already. -/
def ensureDirectory (tree : Tree) (path : Path) : Except FileFault Tree :=
  match tree.makeDirectory path with
  | .ok tree => .ok tree
  | .error fault => if tree.isDirectory path then .ok tree else .error fault

/-- Makes a directory and those on the way to it, by the number of parts that the path has left. -/
def ensureBranch (tree : Tree) (anchor : Path.Anchor) : Nat → List String → Except FileFault Tree
  | 0, parts => tree.ensureDirectory ⟨anchor, parts⟩
  | left + 1, parts =>
    match tree.makeDirectory ⟨anchor, parts⟩ with
    | .error .missing => do
      let grown ← tree.ensureBranch anchor left parts.dropLast
      grown.ensureDirectory ⟨anchor, parts⟩
    | _ => tree.ensureDirectory ⟨anchor, parts⟩

def ensureDirectories (tree : Tree) (path : Path) : Except FileFault Tree :=
  tree.ensureBranch path.anchor path.parts.length path.parts

/-- Opens a file for writing at its end, creating it if there is none; answers its place and what it
held. -/
def openAtEnd (tree : Tree) (path : Path) : Except FileFault (Tree × Place × ByteArray) := do
  let place ← tree.locate path
  match tree.entry? place with
  | some .directory => .error .isDirectory
  | some (.file content) => .ok (tree, place, content)
  | none => .ok (tree.put place (.file ByteArray.empty), place, ByteArray.empty)

/-- The tree with a file added, and with the directories on the way to it; a path that cannot lead
to a file adds nothing. -/
def withFile (tree : Tree) (path : Path) (content : ByteArray) : Tree :=
  match tree.ensureDirectories path.parent with
  | .error _ => tree
  | .ok grown =>
    match grown.locate path with
    | .error _ => grown
    | .ok place => grown.put place (.file content)

end Tree

end Files

end TabCompletion
