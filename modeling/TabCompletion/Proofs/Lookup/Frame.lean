import TabCompletion.Proofs.Binding.Record
import TabCompletion.Proofs.World.Linked

/-! # Lookups stay in their scope

Whatever is looked up, in whatever scope and with whatever host, nothing but announced queries about
that scope is sent, each of them by one call of a binding; and a world is left as it was. -/

namespace TabCompletion

open Dialogue

namespace World

/-- A world after some queries about a scope: their calls are recorded, and nothing else has
changed. -/
def consulted (w : World) (scope : Scope) (queries : List (List String)) : World :=
  { w with calls := w.calls ++ queries.map fun words => ⟨scope.interp, scope.ns, words⟩ }

variable {α : Type} {scope : Scope} {d : Dialogue α} {w : World} {queries : List (List String)}

theorem consulted_concat (w : World) (scope : Scope) (past : List (List String))
    (words : List String) :
    (w.consulted scope past).log ⟨scope.interp, scope.ns, words⟩ =
      w.consulted scope (past ++ [words]) := by
  simp [consulted, log]

theorem state_run_host (h : Event.Announced scope (d.run host w).events queries) :
    (d.run host w).state = w.consulted scope queries := by
  refine state_run_of_announced (fun past t => t = w.consulted scope past) ?_ ?_ h
  · rintro kind words past t rfl
    exact consulted_concat w scope past words
  · simp [consulted]

theorem state_run_linkedHost
    (h : Event.Announced scope (d.run linkedHost (linked w)).events queries) :
    (d.run linkedHost (linked w)).state = linked (w.consulted scope queries) := by
  refine state_run_of_announced (fun past t => t = linked (w.consulted scope past)) ?_ ?_ h
  · rintro kind words past t rfl
    rw [linkedHost_eq, consulted_concat]
  · simp [consulted]

end World

namespace Inquiry

/-- An inquiry stays in its scope, which is the main interpreter's if no interpreter was named, and
the global namespace if no namespace was. With whatever host, it sends nothing but queries about the
scope, each right after the note of that query, be it answered or refused. Each of them becomes one
call of a binding, whatever the binding does; and a world is left as it was but for the record of
the queries, whichever way it is asked. -/
theorem queries_announced_in_scope (interp ns : Option String) (inquiry : Inquiry) :
    let scope := Scope.of interp ns
    let asking := inquiry.dialogue scope
    (scope.interp = interp.getD "" ∧
      scope.ns = if ns.getD "" = "" then "::" else ns.getD "") ∧
    (∀ (σ : Type) (host : Host σ) (s : σ),
      ∃ queries, Event.Announced scope (asking.run host s).events queries) ∧
    (∀ (β : Type) (binding : Binding β) (link : Linked (β × List BindingCall)),
      let run := asking.run (Bridge.host binding.recorded) link
      asking.run (Bridge.host binding) link.unrecorded = run.mapState Linked.unrecorded ∧
      ∃ queries, Event.Announced scope run.events queries ∧
        run.state.record = link.record ++ queries.map (Bridge.inscope scope)) ∧
    ∀ w : World,
      (∃ queries, Event.Announced scope (asking.run World.host w).events queries ∧
        (asking.run World.host w).state = w.consulted scope queries) ∧
      ∃ queries,
        Event.Announced scope (asking.run World.linkedHost (World.linked w)).events queries ∧
        (asking.run World.linkedHost (World.linked w)).state =
          World.linked (w.consulted scope queries) := by
  intro scope asking
  have hasking : asking.Inquires scope Lookup.Puts := inquiry.inquires scope
  refine ⟨⟨rfl, ?_⟩, ?_, ?_, ?_⟩
  · cases ns <;> simp [scope, Scope.of, Namespace.orRoot, Namespace.root]
  · intro σ host s
    exact hasking.announced host s
  · intro β binding link
    obtain ⟨queries, hqueries⟩ := hasking.announced (Bridge.host binding.recorded) link
    exact ⟨Bridge.run_unrecorded binding asking link, queries, hqueries,
      Bridge.record_run binding hqueries⟩
  · intro w
    obtain ⟨queries, hqueries⟩ := hasking.announced World.host w
    obtain ⟨others, hothers⟩ := hasking.announced World.linkedHost (World.linked w)
    exact ⟨⟨queries, hqueries, World.state_run_host hqueries⟩,
      others, hothers, World.state_run_linkedHost hothers⟩

end Inquiry

end TabCompletion
