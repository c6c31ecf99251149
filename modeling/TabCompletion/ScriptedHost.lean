import TabCompletion.Request

/-! # A host with prepared replies -/

namespace TabCompletion

/-- A prepared reply to a query: an answer of some kind, or a refusal. -/
inductive Reply
  | names (found : List String)
  | flag (b : Bool)
  | value (s : String)
  | refusal (message : String)
  /-- An answer of no kind that a query has. -/
  | other
deriving Repr

/-- Replies prepared in order, and the calls that have been made. -/
structure ScriptedHost where
  replies : List Reply
  calls : List Call

namespace ScriptedHost

def refuse (call : Call) (message : String) : Failure :=
  .rejected ⟨message, call.words, call.interp, none⟩

/-- A reply counts only for a query of its own kind. -/
def Reply.answer (call : Call) : (kind : Kind) → Reply → Except Failure kind.Answer
  | _, .refusal message => .error (refuse call message)
  | .names, .names found => .ok found
  | .flag, .flag b => .ok b
  | .value, .value s => .ok s
  | _, _ => .error (refuse call "bad reply")

/-- Only queries are answered. -/
def host : Host ScriptedHost
  | .query kind call, scripted =>
    let calls := scripted.calls ++ [call]
    match scripted.replies with
    | [] => (.error (refuse call "no reply"), ⟨[], calls⟩)
    | reply :: rest => (Reply.answer call kind reply, ⟨rest, calls⟩)
  | .evaluate .., scripted => (.error .unable, scripted)
  | .isComplete _, scripted => (.error .unable, scripted)
  | .source .., scripted => (.error .unable, scripted)
  | .require .., scripted => (.error .unable, scripted)

end ScriptedHost

end TabCompletion
