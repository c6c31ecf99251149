import TabCompletion.Proofs.Shell.Scripts
import TabCompletion.Proofs.World.Fixtures

/-! # Entering namespaces

The queries by which the shell moves are put in the namespace that it is in. From one that the world
lists it can enter every other, and from one that was never made it cannot enter any. -/

namespace TabCompletion

open Dialogue

namespace Shell

variable {shell : Shell} {w : World} {name script : String}

/-! ## Moving from where the shell is -/

/-- The script that moves to a namespace by its full name. -/
def moveTo (name : String) : String :=
  moveCommand ++ " " ++ name

theorem moves_moveTo (htrimmed : Text.trimBlanks name = name) : Moves (moveTo name) name := by
  have hblank : Text.isBlank ' ' = true := by decide
  have hrest : Text.trimBlanks (String.ofList (' ' :: name.toList)) = Text.trimBlanks name := by
    simp [Text.trimBlanks, hblank]
  refine ⟨[], ' ' :: name.toList, ?_, by simp, by simp [hblank], ?_⟩
  · simp [moveTo, String.toList_append]
  · rw [hrest, htrimmed]

/-- In a namespace that the world lists, a name is entered as the namespace that it stands for
there, without a word. -/
theorem run_enterNamespace_of_hosts (h : w.Hosts shell.scope) (hname : name ≠ "")
    {qualified : String} (hqualify : w.qualify? shell.scope.ns name = some qualified) :
    let run := (shell.enterNamespace name).run World.host w
    run.outcome = .ok { shell with scope := shell.scope.within (some qualified) } ∧
      Event.printed run.events = [] := by
  intro run
  have hfound : ∃ events t, (shell.findNamespace name).run World.host w =
      ⟨.ok (some qualified), events, t⟩ ∧ Event.printed events = [] := by
    have hexists := World.replies_exists h name
    rw [hqualify] at hexists
    rw [findNamespace, run_query_bind hexists]
    have hstill : (World.host (seeking shell.scope name) w).2.Hosts shell.scope := h
    have hentering : (World.host (entering shell.scope name)
        (World.host (seeking shell.scope name) w).2).1 = .ok qualified :=
      World.replies_inscope hstill hqualify
    simp only [Option.isSome_some, if_true]
    rw [run_map, run_query, hentering]
    exact ⟨_, _, rfl, rfl⟩
  obtain ⟨events, t, hrun, hprinted⟩ := hfound
  have hrun : run = ⟨.ok { shell with scope := shell.scope.within (some qualified) }, events, t⟩ := by
    simp only [run]
    rw [enterNamespace, if_neg hname, run_bind, run_rescue, run_map, hrun]
    simp [Except.map]
  rw [hrun]
  exact ⟨rfl, hprinted⟩

/-- From a namespace that was never made no namespace is entered: the query fails for want of the
namespace in which it is put. -/
theorem run_enterNamespace_of_unlisted (hinterp : shell.scope.interp ∈ w.interps)
    (hns : shell.scope.ns ∉ w.namespaces) (hname : name ≠ "") :
    let run := (shell.enterNamespace name).run World.host w
    run.outcome = .ok shell ∧
      Event.printed run.events =
        [⟨.error, "namespace \"" ++ shell.scope.ns ++ "\" not found"⟩] := by
  intro run
  have hreply : (World.host (seeking shell.scope name) w).1 =
      .error (World.refuse ["::namespace", "exists", name]
        ("namespace \"" ++ shell.scope.ns ++ "\" not found")) := by
    simp [World.host, World.look, hinterp, hns]
    rfl
  simp only [run]
  rw [enterNamespace, if_neg hname, run_bind, run_rescue, run_map, findNamespace, run_bind,
    run_query, hreply]
  exact ⟨rfl, rfl⟩

/-! ## Any script -/

/-- A script that does not move is evaluated where the shell is, and leaves it there. -/
theorem Executes.eq_of_stays {exchanges : List Exchange} {fragments : List Fragment} {next : Shell}
    (h : Executes shell script exchanges fragments next) (hstays : ∀ name, ¬ Moves script name) :
    next = shell ∧
      ∃ reply, exchanges = [⟨.evaluate shell.scope.interp shell.scope.ns script, reply⟩] := by
  cases h with
  | evaluated => exact ⟨rfl, _, rfl⟩
  | failed => exact ⟨rfl, _, rfl⟩
  | unnamed hmoves => exact absurd hmoves (hstays _)
  | unsought hmoves => exact absurd hmoves (hstays _)
  | absent hmoves => exact absurd hmoves (hstays _)
  | unentered hmoves => exact absurd hmoves (hstays _)
  | moved hmoves => exact absurd hmoves (hstays _)

/-- From a namespace that was never made no script moves, and moving does not make it. -/
theorem run_execute_of_unlisted (hinterp : shell.scope.interp ∈ w.interps)
    (hns : shell.scope.ns ∉ w.namespaces) (hmoves : Moves script name) :
    ((shell.execute script).run World.host w).outcome = .ok shell ∧
      ((shell.execute script).run World.host w).state.namespaces = w.namespaces := by
  have hexecute : shell.execute script = shell.enterNamespace name := by
    rw [execute, moveTarget?_eq_some_iff.mpr hmoves]
  obtain ⟨calls, hstate⟩ := (World.run_of_asks (asks_enterNamespace shell name) w).2
  rw [hexecute, hstate]
  refine ⟨?_, rfl⟩
  by_cases hname : name = ""
  · subst hname
    rfl
  · exact (run_enterNamespace_of_unlisted hinterp hns hname).1

/-- After a script the shell is in a namespace that the world lists exactly if it was in one before,
or if the script does not move: such a script makes the namespace in which it is run. -/
theorem exists_execute (hinterp : shell.scope.interp ∈ w.interps) (script : String) :
    ∃ next, ((shell.execute script).run World.host w).outcome = .ok next ∧
      next.scope.interp = shell.scope.interp ∧
      (next.scope.ns ∈ ((shell.execute script).run World.host w).state.namespaces ↔
        shell.scope.ns ∈ w.namespaces ∨ ∀ name, ¬ Moves script name) := by
  obtain ⟨next, houtcome, hexecutes⟩ := run_execute World.host_onlyRefuses shell script w
  refine ⟨next, houtcome, hexecutes.frame.2.2, ?_⟩
  by_cases hlisted : shell.scope.ns ∈ w.namespaces
  · obtain ⟨next', houtcome', hmem⟩ := mem_namespaces_of_execute shell script w hlisted
    obtain rfl := Except.ok.inj (houtcome.symm.trans houtcome')
    simp [hmem, hlisted]
  by_cases hstays : ∀ name, ¬ Moves script name
  · obtain ⟨rfl, reply, hexchanges⟩ := hexecutes.eq_of_stays hstays
    have hstate := state_run_eq_foldl World.host (next.execute script) w
    rw [hexchanges] at hstate
    have hmade : next.scope.ns ∈ ((next.execute script).run World.host w).state.namespaces := by
      rw [hstate]
      exact World.mem_namespaces_evaluate hinterp next.scope.ns script
    exact iff_of_true hmade (.inr hstays)
  · obtain ⟨name, hmoves⟩ := not_forall_not.mp hstays
    obtain ⟨hstuck, hnamespaces⟩ := run_execute_of_unlisted hinterp hlisted hmoves
    obtain rfl := Except.ok.inj (houtcome.symm.trans hstuck)
    rw [hnamespaces]
    exact iff_of_false hlisted (not_or.mpr ⟨hlisted, hstays⟩)

/-- After any scripts the shell is in a namespace that the world lists exactly if it was in one at
first, or if one of the scripts does not move. -/
theorem exists_foldlM_execute (scripts : List String) (hinterp : shell.scope.interp ∈ w.interps) :
    let reached := (scripts.foldlM execute shell).run World.host w
    ∃ next, reached.outcome = .ok next ∧ next.scope.interp = shell.scope.interp ∧
      (next.scope.ns ∈ reached.state.namespaces ↔
        shell.scope.ns ∈ w.namespaces ∨ ∃ script ∈ scripts, ∀ name, ¬ Moves script name) := by
  -- for every shell and world, since each script leaves others to those after it
  induction scripts generalizing shell w with
  | nil => exact ⟨shell, rfl, rfl, by simp [Dialogue.run, pure]⟩
  | cons script rest ih =>
      obtain ⟨next, houtcome, hinterp', hlisted⟩ := exists_execute hinterp script
      have hinterps : next.scope.interp ∈
          ((shell.execute script).run World.host w).state.interps := by
        rw [World.interps_run, hinterp']
        exact hinterp
      obtain ⟨last, hlast, hinterp'', hiff⟩ := ih hinterps
      rw [List.foldlM_cons, run_bind, houtcome]
      refine ⟨last, hlast, hinterp''.trans hinterp', ?_⟩
      rw [hlisted] at hiff
      simpa [or_assoc] using hiff

/-- Wherever starting up and any scripts have led, a namespace that the world lists is entered by its
full name, without a word, exactly if the world lists the namespace that the shell is in. It does so
if it listed the one of the settings after the start, or if any of the scripts was not a move. In a
namespace that was never made the shell stays, and says that this is not found. -/
theorem entered_iff_scope_listed (settings : Settings) (w : World)
    (hinterp : settings.interp ∈ w.interps) (scripts : List String) :
    let started := ((start settings).startUp.run World.host w).state
    let reached := (scripts.foldlM execute (start settings)).run World.host started
    ∃ shell, reached.outcome = .ok shell ∧
      (shell.scope.ns ∈ reached.state.namespaces ↔
        (start settings).scope.ns ∈ started.namespaces ∨
          ∃ script ∈ scripts, ∀ name, ¬ Moves script name) ∧
      ∀ name ∈ reached.state.namespaces, Text.beginsWith "::" name = true →
        Text.trimBlanks name = name →
        let moving := (shell.execute (moveTo name)).run World.host reached.state
        (shell.scope.ns ∈ reached.state.namespaces →
          ∃ next, moving.outcome = .ok next ∧ next.scope.ns = name ∧
            Event.printed moving.events = []) ∧
        (shell.scope.ns ∉ reached.state.namespaces →
          moving.outcome = .ok shell ∧ shell.scope.ns ≠ name ∧
            Event.printed moving.events =
              [⟨.error, "namespace \"" ++ shell.scope.ns ++ "\" not found"⟩]) := by
  intro started reached
  have hstarted : (start settings).scope.interp ∈ started.interps := by
    rw [World.interps_run]
    exact hinterp
  obtain ⟨shell, houtcome, hinterp', hlisted⟩ := exists_foldlM_execute scripts hstarted
  refine ⟨shell, houtcome, hlisted, ?_⟩
  intro name hname hfull htrimmed moving
  have hreached : shell.scope.interp ∈ reached.state.interps := by
    rw [World.interps_run, hinterp']
    exact hstarted
  have hne : name ≠ "" := by
    rintro rfl
    exact absurd hfull (by decide)
  have hmoving : moving = (shell.enterNamespace name).run World.host reached.state := by
    simp only [moving]
    rw [execute, moveTarget?_eq_some_iff.mpr (moves_moveTo htrimmed)]
  constructor
  · intro hns
    have hqualify := World.qualify?_of_mem hname hfull shell.scope.ns
    obtain ⟨hentered, hquiet⟩ := run_enterNamespace_of_hosts ⟨hreached, hns⟩ hne hqualify
    rw [hmoving]
    exact ⟨_, hentered, Scope.ns_within hne, hquiet⟩
  · intro hns
    obtain ⟨hstays, htold⟩ := run_enterNamespace_of_unlisted hreached hns hne
    rw [hmoving]
    refine ⟨hstays, ?_, htold⟩
    rintro rfl
    exact hns hname

/-- A world with one namespace beside the global one. -/
def apart : World where
  namespaces := [Namespace.root, "::app"]

/-- Settings that start in another namespace, which was never made. -/
def stranded : Settings where
  ns := "::ghost"

theorem entered_stranded :
    stranded.interp ∈ apart.interps ∧
    (∃ shell,
      (([":ns ::app", "echo"].foldlM execute (start stranded)).run World.host
        ((start stranded).startUp.run World.host apart).state).outcome = .ok shell ∧
      ∃ next, ((shell.execute (moveTo "::app")).run World.host
        (([":ns ::app", "echo"].foldlM execute (start stranded)).run World.host
          ((start stranded).startUp.run World.host apart).state).state).outcome = .ok next ∧
        next.scope.ns = "::app") ∧
    Event.printed (((start stranded).execute (moveTo "::app")).run World.host
        ((start stranded).startUp.run World.host apart).state).events =
      [⟨.error, "namespace \"::ghost\" not found"⟩] := by
  have hinterp : stranded.interp ∈ apart.interps := by decide
  have hecho : ∀ name, ¬ Moves "echo" name := by
    intro name hmoves
    have hnone : moveTarget? "echo" = none := by decide
    rw [moveTarget?_eq_some_iff.mpr hmoves] at hnone
    cases hnone
  refine ⟨hinterp, ?_, ?_⟩
  · obtain ⟨shell, houtcome, hlisted, hmoving⟩ :=
      entered_iff_scope_listed stranded apart hinterp [":ns ::app", "echo"]
    have hns := hlisted.mpr (.inr ⟨"echo", by simp, hecho⟩)
    obtain ⟨next, hnext, hname, -⟩ :=
      (hmoving "::app" (by decide) (by decide) (by decide)).1 hns
    exact ⟨shell, houtcome, next, hnext, hname⟩
  · obtain ⟨shell, houtcome, -, hmoving⟩ := entered_iff_scope_listed stranded apart hinterp []
    obtain rfl : start stranded = shell := Except.ok.inj houtcome
    exact ((hmoving "::app" (by decide) (by decide) (by decide)).2 (by decide)).2.2

/-- From a namespace that was never made, one that exists is not entered. -/
theorem not_forall_entered :
    ¬ ∀ (settings : Settings) (w : World), settings.interp ∈ w.interps →
      ∀ (scripts : List String) (shell : Shell),
        let started := ((start settings).startUp.run World.host w).state
        let reached := (scripts.foldlM execute (start settings)).run World.host started
        reached.outcome = .ok shell →
        ∀ name ∈ reached.state.namespaces, Text.beginsWith "::" name = true →
          Text.trimBlanks name = name →
          let moving := (shell.execute (moveTo name)).run World.host reached.state
          ∃ next, moving.outcome = .ok next ∧ next.scope.ns = name ∧
            Event.printed moving.events = [] := by
  intro h
  obtain ⟨next, hentered, hname, -⟩ :=
    h stranded apart (by decide) [] (start stranded) rfl "::app" (by decide) (by decide) (by decide)
  have hmoves : Moves (moveTo "::app") "::app" := moves_moveTo (by decide)
  have hstays : (((start stranded).execute (moveTo "::app")).run World.host
      ((start stranded).startUp.run World.host apart).state).outcome = .ok (start stranded) :=
    (run_execute_of_unlisted (by decide) (by decide) hmoves).1
  obtain rfl : start stranded = next := Except.ok.inj (hstays.symm.trans hentered)
  exact absurd hname (by decide)

end Shell

end TabCompletion
