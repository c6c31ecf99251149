import TabCompletion.Proofs.Lookup.Relaying
import TabCompletion.Proofs.Shell.Execution
import TabCompletion.Proofs.World.Namespaces

/-! # Scripts one after the other

A shell keeps its interpreter through all scripts, and goes only where it was sent by name; scripts
are run, and words completed, where it is then. -/

namespace TabCompletion

open Dialogue

variable {σ : Type}

namespace World

theorem host_onlyRefuses : host.OnlyRefuses Shell.Sends := by
  intro request w hsends
  cases hsends with
  | seeks scope name => exact okOrRefused_exists w scope name
  | enters scope name =>
      rcases okOrRefused_inscope w scope name with ⟨qualified, hreply, -⟩ | hrefused
      · exact .inl ⟨qualified, hreply, trivial⟩
      · exact .inr hrefused
  | evaluates interp ns script => exact okOrRefused_evaluate w interp ns script

/-- What a world gives as the full name of a namespace, it lists. -/
theorem mem_of_host_entering {w : World} {scope : Scope} {name ns : String}
    (h : (host (Shell.entering scope name) w).1 = .ok ns) : ns ∈ w.namespaces ∧ ns ≠ "" := by
  rcases okOrRefused_inscope w scope name with ⟨qualified, hreply, hlisted⟩ | ⟨r, hrefused⟩
  · obtain rfl := Except.ok.inj (hreply.symm.trans h)
    exact hlisted
  · cases hrefused.symm.trans h

end World

namespace Shell

/-! ## One script -/

/-- A script executed by a shell in a run that leaves another shell. Words are completed from then
on where that other shell is. -/
structure StepSpec (host : Host σ) (shell : Shell) (script : String) (step : Run σ Shell)
    (next : Shell) : Prop where
  outcome_eq : step.outcome = .ok next
  executes : Executes shell script (Event.exchanges step.events) (Event.printed step.events) next
  settings_eq : next.settings = shell.settings
  interp_eq : next.scope.interp = shell.scope.interp
  completes : ∀ text t, ∀ exchange ∈ Event.exchanges ((next.edits text).run host t).events,
    next.scope.Covers exchange.request

theorem exists_stepSpec {host : Host σ} (hhost : host.OnlyRefuses Sends) (shell : Shell)
    (script : String) (s : σ) :
    ∃ next, StepSpec host shell script ((shell.execute script).run host s) next := by
  obtain ⟨next, houtcome, hexecutes⟩ := run_execute hhost shell script s
  obtain ⟨hsettings, -, hinterp⟩ := hexecutes.frame
  refine ⟨next, houtcome, hexecutes, hsettings, hinterp, ?_⟩
  intro text t
  exact (Completer.asks_edits next.scope next.completer text).exchanges host t

/-! ## In a world -/

/-- A shell in a namespace that the world lists is in such a namespace after a script, too. -/
theorem mem_namespaces_of_execute (shell : Shell) (script : String) (w : World)
    (hlisted : shell.scope.ns ∈ w.namespaces) :
    ∃ next, ((shell.execute script).run World.host w).outcome = .ok next ∧
      next.scope.ns ∈ ((shell.execute script).run World.host w).state.namespaces := by
  obtain ⟨next, houtcome, hexecutes⟩ := run_execute World.host_onlyRefuses shell script w
  obtain ⟨hgrown, hreplies⟩ :=
    run_replies (fun w w' : World => w.namespaces ⊆ w'.namespaces)
      (fun _ => List.Subset.refl _) (fun _ _ _ => List.Subset.trans)
      World.namespaces_subset_host (shell.execute script) w
  refine ⟨next, houtcome, ?_⟩
  rcases hexecutes.eq_or_moved with rfl | ⟨name, ns, -, -, hexchanges, rfl⟩
  · exact hgrown hlisted
  · rw [hexchanges] at hreplies
    obtain ⟨t, hreply, hlater⟩ := hreplies ⟨entering shell.scope name, .ok ns⟩ (by simp)
    obtain ⟨hmem, hne⟩ := World.mem_of_host_entering hreply.symm
    rw [Scope.ns_within hne]
    exact hlater hmem

theorem relays_findNamespace (shell : Shell) (name : String) :
    (shell.findNamespace name).Relays shell.scope.Covers := by
  refine (relays_query shell.scope .flag _).bind ?_
  intro known
  split
  · exact (relays_query shell.scope .value _).map some
  · exact relays_pure _ none

theorem asks_enterNamespace (shell : Shell) (name : String) :
    (shell.enterNamespace name).Asks shell.scope.Covers := by
  unfold enterNamespace
  split
  · exact .tell _ (.done shell)
  · apply Asks.bind
    · refine ((relays_findNamespace shell name).map Except.ok).asks.rescue ?_
      intro r
      exact .tell _ (.done _)
    · intro found
      split
      · exact .done _
      · exact .tell _ (.done shell)
      · exact .tell _ (.done shell)

theorem outcome_findNamespace {shell : Shell} {w : World} (h : w.Hosts shell.scope)
    (name : String) :
    (shell.findNamespace name).outcome w.replies = .ok (w.qualify? shell.scope.ns name) := by
  rw [findNamespace, outcome_query_bind (World.replies_exists h name)]
  cases hqualify : w.qualify? shell.scope.ns name with
  | none => rfl
  | some qualified =>
      simp only [Option.isSome_some, if_true]
      rw [← bind_pure_comp, outcome_query_bind (World.replies_inscope h hqualify)]
      rfl

theorem outcome_enterNamespace {shell : Shell} {w : World} (h : w.Hosts shell.scope)
    {name : String} (hname : name ≠ "") :
    ∃ next, (shell.enterNamespace name).outcome w.replies = .ok next ∧
      next.scope.ns = (w.qualify? shell.scope.ns name).getD shell.scope.ns := by
  have hfound : (@Except.ok Rejection _ <$> shell.findNamespace name).outcome w.replies =
      .ok (.ok (w.qualify? shell.scope.ns name)) := by
    rw [← bind_pure_comp, outcome_bind_ok (outcome_findNamespace h name)]
    rfl
  rw [enterNamespace, if_neg hname, outcome_bind, outcome_rescue, hfound]
  cases hqualify : w.qualify? shell.scope.ns name with
  | none => exact ⟨shell, rfl, rfl⟩
  | some qualified =>
      exact ⟨_, rfl, Scope.ns_within (World.mem_of_qualify? hqualify).2⟩

/-! ## Sequences -/

/-- Whatever scripts a shell has executed, and whatever comes of the next one, the interpreter stays
the same, and the shell is where the script left it. In a world it stays within the namespaces that
are listed once it is in one, and a name sends it to the namespace that the name stands for there,
if there is any. -/
theorem scripts_keep_interp_follow_moves {host : Host σ} (hhost : host.OnlyRefuses Sends)
    (settings : Settings) (before : List String) (script : String) (s : σ) :
    (∃ shell next,
      let reached := (before.foldlM execute (start settings)).run host s
      reached.outcome = .ok shell ∧ shell.settings = settings ∧
        shell.scope.interp = settings.interp ∧
        StepSpec host shell script ((shell.execute script).run host reached.state) next) ∧
    ∀ (w : World) (shell : Shell), shell.scope.ns ∈ w.namespaces →
      (∃ next,
        let reached := (before.foldlM execute shell).run World.host w
        reached.outcome = .ok next ∧ next.scope.ns ∈ reached.state.namespaces) ∧
      ∀ name, Moves script name → name ≠ "" → shell.scope.interp ∈ w.interps →
        ∃ next, ((shell.execute script).run World.host w).outcome = .ok next ∧
          next.scope.ns = (w.qualify? shell.scope.ns name).getD shell.scope.ns := by
  constructor
  · have hstep : ∀ (shell : Shell) (script : String) (s : σ),
        (shell.settings = settings ∧ shell.scope.interp = settings.interp) →
          ∃ next, ((shell.execute script).run host s).outcome = .ok next ∧
            next.settings = settings ∧ next.scope.interp = settings.interp := by
      intro shell script s hshell
      obtain ⟨next, hnext⟩ := exists_stepSpec hhost shell script s
      exact ⟨next, hnext.outcome_eq, hnext.settings_eq.trans hshell.1,
        hnext.interp_eq.trans hshell.2⟩
    obtain ⟨shell, hreached, hsettings, hinterp⟩ :=
      exists_ok_run_foldlM hstep before (s := s) (b := start settings) ⟨rfl, rfl⟩
    obtain ⟨next, hnext⟩ := exists_stepSpec hhost shell script _
    exact ⟨shell, next, hreached, hsettings, hinterp, hnext⟩
  · intro w shell hlisted
    constructor
    · exact exists_ok_run_foldlM mem_namespaces_of_execute before hlisted
    · intro name hmoves hname hinterp
      rw [execute, moveTarget?_eq_some_iff.mpr hmoves]
      simp only
      rw [World.run_outcome (asks_enterNamespace shell name)]
      exact outcome_enterNamespace ⟨hinterp, hlisted⟩ hname

/-- A world with a namespace inside another. -/
def nested : World where
  namespaces := [Namespace.root, "::a", "::a::b"]

theorem scripts_follow_moves_nested :
    World.host.OnlyRefuses Sends ∧
    (∃ shell next,
      let reached := ([":ns ::a"].foldlM execute (start {})).run World.host nested
      reached.outcome = .ok shell ∧
        StepSpec World.host shell ":ns b" ((shell.execute ":ns b").run World.host reached.state)
          next) ∧
    ∃ next, (((start { ns := "::a" }).execute ":ns b").run World.host nested).outcome = .ok next ∧
      next.scope.ns = "::a::b" := by
  obtain ⟨⟨shell, next, hreached, -, -, hnext⟩, hworld⟩ :=
    scripts_keep_interp_follow_moves World.host_onlyRefuses {} [":ns ::a"] ":ns b" nested
  have hmoves : Moves ":ns b" "b" := moveTarget?_eq_some_iff.mp (by decide)
  obtain ⟨moved, houtcome, hns⟩ :=
    (hworld nested (start { ns := "::a" }) (by decide)).2 "b" hmoves (by decide) (by decide)
  have hqualified : (nested.qualify? "::a" "b").getD "::a" = "::a::b" := by decide
  exact ⟨World.host_onlyRefuses, ⟨shell, next, hreached, hnext⟩,
    moved, houtcome, hns.trans hqualified⟩

end Shell

end TabCompletion
