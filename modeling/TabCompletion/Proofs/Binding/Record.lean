import TabCompletion.Binding.Scripted
import TabCompletion.Proofs.Dialogue.Consulting
import TabCompletion.Proofs.Dialogue.Simulation

/-! # Recorded bindings

Any binding can be made to record the calls that reach it. The record changes nothing: without it, a
run is that of the binding itself. -/

namespace TabCompletion

variable {α β : Type}

/-- A binding that puts every call into a record beside its own state. -/
def Binding.recorded (binding : Binding β) : Binding (β × List BindingCall) where
  call richValues words state :=
    let result := binding.call richValues words state.1
    (result.1, (result.2, state.2 ++ [⟨words, richValues⟩]))
  items := binding.items
  truth := binding.truth

namespace Linked

/-- A recorded binding in use, without its record. -/
def unrecorded (link : Linked (β × List BindingCall)) : Linked β :=
  ⟨link.under.1, link.richValues⟩

/-- The calls that reached a recorded binding. -/
def record (link : Linked (β × List BindingCall)) : List BindingCall :=
  link.under.2

end Linked

namespace Bridge

theorem host_unrecorded (binding : Binding β) (request : Request)
    (link : Linked (β × List BindingCall)) :
    host binding request link.unrecorded =
      ((host binding.recorded request link).1, (host binding.recorded request link).2.unrecorded) := by
  cases request <;> rfl

/-- Without its record, a run with a recorded binding is the run with the binding itself. -/
theorem run_unrecorded (binding : Binding β) (d : Dialogue α)
    (link : Linked (β × List BindingCall)) :
    d.run (host binding) link.unrecorded =
      (d.run (host binding.recorded) link).mapState Linked.unrecorded :=
  Dialogue.run_mapState (host_unrecorded binding) d link

/-- The call by which a query about a scope reaches a binding: one command for the interpreter of
the scope, which runs the words of the query inside the namespace of the scope, with texts wished
for results. -/
def inscope (scope : Scope) (words : List String) : BindingCall where
  words := [.text "::interp", .text "eval", .text scope.interp,
    .list [.text "::namespace", .text "inscope", .text scope.ns, .list (words.map .text)]]
  richValues := false

theorem record_host_looking (binding : Binding β) (scope : Scope) (kind : Kind)
    (words : List String) (link : Linked (β × List BindingCall)) :
    (host binding.recorded (scope.looking kind words) link).2.record =
      link.record ++ [inscope scope words] :=
  rfl

/-- Where all requests of a run are announced queries, the record grows by one call for each. -/
theorem record_run (binding : Binding β) {scope : Scope} {d : Dialogue α}
    {link : Linked (β × List BindingCall)} {queries : List (List String)}
    (h : Event.Announced scope (d.run (host binding.recorded) link).events queries) :
    (d.run (host binding.recorded) link).state.record =
      link.record ++ queries.map (inscope scope) := by
  refine Dialogue.state_run_of_announced
    (fun past t => t.record = link.record ++ past.map (inscope scope)) ?_ (by simp) h
  intro kind words past t ht
  rw [record_host_looking, ht]
  simp

end Bridge

end TabCompletion
