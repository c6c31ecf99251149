import TabCompletion.Shell.Loop

/-! # Sessions with a record

A record lists the lines that a session takes, each with the script that was executed for it. It
changes nothing of the session. -/

namespace TabCompletion

open Dialogue

namespace Shell

/-- A line that was taken: what was pending when it was prompted for, and the script that was
executed once it was there, if any. -/
structure Turn where
  pending : List String
  line : String
  executed : Option String
deriving DecidableEq

namespace Turn

/-- The lines of the script up to the one taken. -/
def lines (turn : Turn) : List String :=
  turn.pending ++ [turn.line]

/-- A blank line while nothing was pending. -/
def isIdle (turn : Turn) : Bool :=
  turn.pending.isEmpty && Text.trimBlanks turn.line = ""

/-- The lines taken but for those that do nothing. -/
def kept (turns : List Turn) : List String :=
  (turns.filter fun turn => !turn.isIdle).map line

/-- The scripts executed, in order. -/
def scripts (turns : List Turn) : List String :=
  turns.filterMap executed

/-- The lines of the scripts executed, in order. -/
def groups (turns : List Turn) : List (List String) :=
  turns.filterMap fun turn => turn.executed.map fun _ => turn.lines

theorem kept_cons (turn : Turn) (turns : List Turn) :
    kept (turn :: turns) = (if turn.isIdle then [] else [turn.line]) ++ kept turns := by
  by_cases hidle : turn.isIdle <;> simp [kept, hidle]

end Turn

/-! ## Recording -/

/-- Takes a line, and records the script executed for it. -/
def takeLineRecorded (shell : Shell) (line : String) : Dialogue (Shell × Option String) := do
  let (next, script) ← shell.enter line
  match script with
  | some script => do
    let after ← next.execute script
    return (after, some script)
  | none => return (next, none)

/-- Responds to a keystroke, and records the line that it takes. -/
def respondRecorded (shell : Shell) : Keystroke → Dialogue (Option Shell × Option Turn)
  | .leave => tell (.prompted shell.prompt) (return (none, none))
  | .tab text => do
    let edits ← shell.edits text
    tell (.offered edits) (return (some shell, none))
  | .line text =>
    tell (.prompted shell.prompt)
      (if shell.isFarewell text then return (none, none)
      else if shell.isIdle text then return (some shell, some ⟨shell.pending, text, none⟩)
      else do
        let (next, script) ← shell.takeLineRecorded text
        return (some next, some ⟨shell.pending, text, script⟩))

def loopRecorded (shell : Shell) : List Keystroke → Dialogue (Ending × List Turn)
  | [] => tell (.prompted shell.prompt) (return (⟨shell, []⟩, []))
  | keystroke :: rest => do
    let (next, turn) ← shell.respondRecorded keystroke
    match next with
    | some next => do
      let (ending, later) ← next.loopRecorded rest
      return (ending, turn.toList ++ later)
    | none => return (⟨shell, rest⟩, turn.toList)

/-- A session with the record of the lines it takes. -/
def sessionRecorded (settings : Settings) (input : List Keystroke) :
    Dialogue (Ending × List Turn) := do
  let shell := start settings
  shell.startUp
  shell.loopRecorded input

/-! ## What a record leaves out -/

theorem fst_takeLineRecorded (shell : Shell) (line : String) :
    Prod.fst <$> shell.takeLineRecorded line = shell.takeLine line := by
  rw [takeLineRecorded, takeLine, map_bind]
  apply bind_congr
  rintro ⟨next, script⟩
  cases script with
  | none => rfl
  | some script => simp

theorem fst_respondRecorded (shell : Shell) (keystroke : Keystroke) :
    Prod.fst <$> shell.respondRecorded keystroke = shell.respond keystroke := by
  cases keystroke with
  | leave => rfl
  | tab text =>
      rw [respondRecorded, respond, map_bind]
      rfl
  | line text =>
      have hmap : ∀ d : Dialogue (Option Shell × Option Turn),
          Prod.fst <$> tell (.prompted shell.prompt) d =
            tell (.prompted shell.prompt) (Prod.fst <$> d) := fun _ => rfl
      rw [respondRecorded, respond, hmap, ← fst_takeLineRecorded]
      congr 1
      split
      · rfl
      · split
        · rfl
        · simp

theorem fst_loopRecorded (shell : Shell) (input : List Keystroke) :
    Prod.fst <$> shell.loopRecorded input = shell.loop input := by
  induction input generalizing shell with
  | nil => rfl
  | cons keystroke rest ih =>
      rw [loopRecorded, loop, ← fst_respondRecorded, map_bind, bind_map_left]
      apply bind_congr
      rintro ⟨next, turn⟩
      cases next with
      | none => rfl
      | some next => simp [← ih]

/-- The record leaves the session as it is. -/
theorem fst_sessionRecorded (settings : Settings) (input : List Keystroke) :
    Prod.fst <$> sessionRecorded settings input = session settings input := by
  rw [sessionRecorded, session, map_bind]
  simp only [fst_loopRecorded]

end Shell

end TabCompletion
