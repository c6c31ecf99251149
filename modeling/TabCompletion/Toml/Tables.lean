import TabCompletion.Data
import TabCompletion.Toml.Reading

/-! # The tables of a TOML document

A document is assembled statement by statement. Which keys may still be opened or extended does not
follow from the tables alone, so the assembly remembers what is closed. -/

namespace TabCompletion.Toml

abbrev Key : Type := List String

abbrev Table : Type := List (String × Data)

/-! ## Tables inside tables -/

def replace (name : String) (value : Data) : Table → Table
  | [] => []
  | (key, old) :: rest =>
    if key = name then (key, value) :: rest else (key, old) :: replace name value rest

/-- Changes the table to which a key leads, making the tables on the way that are missing. On the
way an array stands for its last table, if that is wished. -/
def within (throughArrays : Bool) (change : Table → Except Fault Table) :
    Key → Table → Except Fault Table
  | [], table => change table
  | name :: rest, table =>
    match table.lookup name with
    | none => do
      let inner ← within throughArrays change rest []
      return table ++ [(name, .table inner)]
    | some (.table entries) => do
      let inner ← within throughArrays change rest entries
      return replace name (.table inner) table
    | some (.list items) =>
      match throughArrays, items.getLast? with
      | true, some (.table entries) => do
        let inner ← within throughArrays change rest entries
        return replace name (.list (items.dropLast ++ [.table inner])) table
      | _, _ => .error .malformed
    | some _ => .error .malformed

/-- Adds an entry to a table that has none under the name. -/
def insert (name : String) (value : Data) (table : Table) : Except Fault Table :=
  if (table.lookup name).isSome then .error .malformed else .ok (table ++ [(name, value)])

/-- Adds an empty table at the end of the array under a name, which may be missing. -/
def extend (name : String) (table : Table) : Except Fault Table :=
  match table.lookup name with
  | none => .ok (table ++ [(name, .list [.table []])])
  | some (.list items) => .ok (replace name (.list (items ++ [.table []])) table)
  | some _ => .error .malformed

/-- Whether a value, once written, cannot be changed by later statements. -/
def isClosed : Data → Bool
  | .list _ => true
  | .table _ => true
  | _ => false

/-! ## Statements -/

structure Assembly where
  table : Table
  /-- The key of the table that entries belong to. -/
  header : Key
  /-- Keys of arrays and tables written in one piece; nothing under them can be changed. -/
  closed : List Key
  /-- Keys of tables that cannot be opened by a header again. -/
  opened : List Key
  /-- Keys of tables made by dotted keys, which count as opened from the next header on. -/
  pending : List Key

namespace Assembly

def empty : Assembly := ⟨[], [], [], [], []⟩

def isClosedAt (a : Assembly) (key : Key) : Bool :=
  a.closed.any fun closed => closed.isPrefixOf key

/-- Counts the pending keys as opened. -/
def settle (a : Assembly) : Assembly :=
  { a with opened := a.pending ++ a.opened, pending := [] }

/-- The header of a table. -/
def openTable (a : Assembly) (key : Key) : Except Fault Assembly :=
  if a.opened.contains key || a.isClosedAt key then .error .malformed
  else do
    let table ← within true .ok key a.table
    return { a with table, header := key, opened := key :: a.opened }

/-- The header of a further table in an array. Nothing is known of the keys in the new table yet. -/
def openElement (a : Assembly) (key : Key) : Except Fault Assembly :=
  match key.getLast? with
  | none => .error .malformed
  | some name =>
    if a.isClosedAt key then .error .malformed
    else do
      let table ← within true (extend name) key.dropLast a.table
      let outside := fun known : Key => !key.isPrefixOf known
      return { a with
        table
        header := key
        closed := a.closed.filter outside
        opened := key :: a.opened.filter outside }

/-- The keys of the tables that a dotted key passes, under a header. -/
def passed (header key : Key) : List Key :=
  (List.range (key.length - 1)).map fun i => header ++ key.take (i + 1)

/-- An entry of the current table. -/
def addEntry (a : Assembly) (key : Key) (value : Data) : Except Fault Assembly :=
  match key.getLast? with
  | none => .error .malformed
  | some name =>
    let full := a.header ++ key
    let way := passed a.header key
    if way.any a.opened.contains || a.isClosedAt full.dropLast then .error .malformed
    else do
      let table ← within true (insert name value) full.dropLast a.table
      return { a with
        table
        closed := if isClosed value then full :: a.closed else a.closed
        pending := way ++ a.pending }

end Assembly

/-! ## Tables in one piece -/

/-- An entry of a table written in one piece, given the keys closed in it so far. -/
def addInline (closed : List Key) (key : Key) (value : Data) (table : Table) :
    Except Fault (List Key × Table) :=
  match key.getLast? with
  | none => .error .malformed
  | some name =>
    if closed.any fun known => known.isPrefixOf key then .error .malformed
    else do
      let grown ← within false (insert name value) key.dropLast table
      return (if isClosed value then key :: closed else closed, grown)

end TabCompletion.Toml
