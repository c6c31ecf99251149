import TabCompletion.Shell

/-! # The loop of the shell -/

namespace TabCompletion

open Dialogue

/-- What a user does at the prompt. -/
inductive Keystroke
  /-- Types a line and ends it. -/
  | line (text : String)
  /-- Asks for completions of the line typed so far. -/
  | tab (text : String)
  /-- Leaves, by the interrupt key or at the end of the input. -/
  | leave
deriving DecidableEq, Repr

namespace Shell

/-- The lines that end a session. -/
def farewells : List String := ["exit", "quit"]

/-- A line that ends the session, if no script is pending. -/
def isFarewell (shell : Shell) (line : String) : Bool :=
  shell.pending.isEmpty && farewells.contains (Text.trimBlanks line)

/-- A line that does nothing, if no script is pending. -/
def isIdle (shell : Shell) (line : String) : Bool :=
  shell.pending.isEmpty && Text.trimBlanks line = ""

/-- A line that neither ends the session nor does nothing: it goes on with the script, which is run
once it is complete. -/
def takeLine (shell : Shell) (line : String) : Dialogue Shell := do
  let (next, script) ← shell.enter line
  match script with
  | some script => next.execute script
  | none => return next

/-- What comes of a keystroke: the shell as it goes on, or nothing if the session ends. A line is
prompted for; asking for completions needs no prompt. -/
def respond (shell : Shell) : Keystroke → Dialogue (Option Shell)
  | .leave => tell (.prompted shell.prompt) (return none)
  | .tab text => do
    let edits ← shell.edits text
    tell (.offered edits) (return some shell)
  | .line text =>
    tell (.prompted shell.prompt)
      (if shell.isFarewell text then return none
      else if shell.isIdle text then return some shell
      else some <$> shell.takeLine text)

/-- How a session ended: the shell as it was left, and what was not read any more. -/
structure Ending where
  shell : Shell
  unread : List Keystroke
deriving DecidableEq

/-- Responds to one keystroke after the other, until one of them ends the session. At the end of the
input a last line is prompted for. -/
def loop (shell : Shell) : List Keystroke → Dialogue Ending
  | [] => tell (.prompted shell.prompt) (return ⟨shell, []⟩)
  | keystroke :: rest => do
    match ← shell.respond keystroke with
    | some next => next.loop rest
    | none => return ⟨shell, rest⟩

/-- What is left of an input after some events: every line was prompted for, and every question for
completions was answered with edits. -/
def unreadAfter (events : List Event) (input : List Keystroke) : List Keystroke :=
  input.drop (events.countP Event.takesInput)

/-- A whole session. -/
def session (settings : Settings) (input : List Keystroke) : Dialogue Ending := do
  let shell := start settings
  shell.startUp
  shell.loop input

end Shell

end TabCompletion
