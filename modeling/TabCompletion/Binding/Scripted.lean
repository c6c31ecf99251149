import TabCompletion.Bridge

/-! # A binding with prepared replies -/

namespace TabCompletion

/-- One call as it reached the binding. -/
structure BindingCall where
  words : List Value
  richValues : Bool

/-- Replies prepared in order, and the calls that have been made. -/
structure ScriptedBinding where
  replies : List (Except String Value)
  calls : List BindingCall

namespace ScriptedBinding

/-- Every call takes the next reply; a call without a reply left fails. -/
def take (words : List Value) (richValues : Bool) (binding : ScriptedBinding) :
    Except Failure Value × ScriptedBinding :=
  let calls := binding.calls ++ [⟨words, richValues⟩]
  match binding.replies with
  | [] => (.error (.binding "no reply"), ⟨[], calls⟩)
  | .ok value :: rest => (.ok value, ⟨rest, calls⟩)
  | .error message :: rest => (.error (.binding message), ⟨rest, calls⟩)

def binding : Binding ScriptedBinding where
  call richValues words state := state.take words richValues
  items := Binding.plainItems
  truth := Binding.plainTruth

/-- The host over a scripted binding. -/
def host : Host (Linked ScriptedBinding) :=
  Bridge.host binding

end ScriptedBinding

end TabCompletion
