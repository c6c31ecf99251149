import TabCompletion.Proofs.Dialogue.Success
import TabCompletion.Proofs.Dialogue.Exchanges
import TabCompletion.Shell.Loop

/-! # Starting up

Whatever the settings ask for at the start is attempted once, in order, in the state in which the
attempts before it have left the host. A refusal is told to the user and stops nothing. -/

namespace TabCompletion

open Dialogue

variable {σ : Type}

namespace Shell

/-! ## Errands -/

/-- Something to be done at the start: the words by which the user is told of it, and the request
that does it. -/
structure Errand where
  task : String
  request : Request

def loading (interp package : String) : Errand :=
  ⟨"package require " ++ package, .require package interp⟩

def sourcing (interp : String) (path : Path) : Errand :=
  ⟨"source " ++ path.text, .source path.text interp⟩

/-- All that the settings ask for at the start: first the packages, then the scripts. -/
def errands (settings : Settings) : List Errand :=
  settings.packages.map (loading settings.interp) ++ settings.startup.map (sourcing settings.interp)

/-- What the user is told of an errand: nothing if it was done, else the failure underneath the
refusal, or the refusal itself if there is none. -/
def report (errand : Errand) (exchange : Exchange) : Option Fragment :=
  match exchange.reply with
  | .error (.rejected r) => some ⟨.error, errand.task ++ ": " ++ r.cause.getD r.message⟩
  | _ => none

/-- Errands run one after the other, each in the state that the one before has left: what is
exchanged with the host, what is printed, and the state in which the host is left. -/
inductive Attempted (host : Host σ) :
    List Errand → σ → List Exchange → List Fragment → σ → Prop
  | nil (s : σ) : Attempted host [] s [] [] s
  | done {errand : Errand} {rest : List Errand} {s t : σ} {answer : errand.request.Answer}
      {exchanges : List Exchange} {fragments : List Fragment} :
      (host errand.request s).1 = .ok answer →
      Attempted host rest (host errand.request s).2 exchanges fragments t →
      Attempted host (errand :: rest) s (⟨errand.request, .ok answer⟩ :: exchanges) fragments t
  | refused {errand : Errand} {rest : List Errand} {s t : σ} {r : Rejection}
      {exchanges : List Exchange} {fragments : List Fragment} :
      (host errand.request s).1 = .error (.rejected r) →
      Attempted host rest (host errand.request s).2 exchanges fragments t →
      Attempted host (errand :: rest) s (⟨errand.request, .error (.rejected r)⟩ :: exchanges)
        (⟨.error, errand.task ++ ": " ++ r.cause.getD r.message⟩ :: fragments) t

namespace Attempted

variable {host : Host σ} {errands more : List Errand} {s t u : σ}
  {exchanges later : List Exchange} {fragments further : List Fragment}

theorem append (h : Attempted host errands s exchanges fragments t)
    (hmore : Attempted host more t later further u) :
    Attempted host (errands ++ more) s (exchanges ++ later) (fragments ++ further) u := by
  induction h with
  | nil s => exact hmore
  | done hreply _ ih => exact .done hreply (ih hmore)
  | refused hreply _ ih => exact .refused hreply (ih hmore)

/-- Every errand is run once, in order. -/
theorem requests_eq (h : Attempted host errands s exchanges fragments t) :
    exchanges.map Exchange.request = errands.map Errand.request := by
  induction h with
  | nil s => rfl
  | done _ _ ih => exact congrArg (List.cons _) ih
  | refused _ _ ih => exact congrArg (List.cons _) ih

/-- The host is left as all the requests, one after the other, leave it. -/
theorem state_eq (h : Attempted host errands s exchanges fragments t) :
    t = (errands.map Errand.request).foldl (fun s request => (host request s).2) s := by
  induction h with
  | nil s => rfl
  | done _ _ ih => exact ih
  | refused _ _ ih => exact ih

/-- There is one line for each refusal, and no other; it names the errand that was refused. -/
theorem fragments_eq (h : Attempted host errands s exchanges fragments t) :
    fragments = (errands.zip exchanges).filterMap fun run => report run.1 run.2 := by
  induction h with
  | nil s => rfl
  | done _ _ ih => exact ih
  | refused _ _ ih => exact congrArg (List.cons _) ih

end Attempted

/-! ## Runs of errands -/

/-- A run that runs errands, and does not fail. -/
def Runs (host : Host σ) (errands : List Errand) (s : σ) (run : Run σ Unit) : Prop :=
  run.outcome = .ok () ∧
    Attempted host errands s (Event.exchanges run.events) (Event.printed run.events) run.state

variable {host : Host σ}

theorem Runs.bind {errands more : List Errand} {d next : Dialogue Unit} {s : σ}
    (h : Runs host errands s (d.run host s)) (hnext : ∀ t, Runs host more t (next.run host t)) :
    Runs host (errands ++ more) s ((d >>= fun _ => next).run host s) := by
  obtain ⟨houtcome, hattempted⟩ := h
  obtain ⟨hdone, hlater⟩ := hnext (d.run host s).state
  rw [run_bind, houtcome]
  refine ⟨hdone, ?_⟩
  simp only [Event.exchanges_append, Event.printed_append]
  exact hattempted.append hlater

theorem runs_forM {α : Type} {f : α → Dialogue Unit} {errand : α → Errand}
    (hf : ∀ a s, Runs host [errand a] s ((f a).run host s)) (items : List α) (s : σ) :
    Runs host (items.map errand) s ((items.forM f).run host s) := by
  induction items generalizing s with
  | nil => exact ⟨rfl, .nil s⟩
  | cons a rest ih => exact (hf a s).bind ih

/-! ## Attempts -/

/-- An attempt fails only where what is attempted fails without being refused; a refusal is told. -/
theorem run_attempt (host : Host σ) (task : String) (act : Dialogue Value) (s : σ) :
    (attempt task act).run host s =
      match (act.run host s).outcome with
      | .ok _ => ⟨.ok (), (act.run host s).events, (act.run host s).state⟩
      | .error (.rejected r) =>
        ⟨.ok (), (act.run host s).events ++ [.told (.printed ⟨.error, task ++ ": " ++ r.reason⟩)],
          (act.run host s).state⟩
      | .error e => ⟨.error e, (act.run host s).events, (act.run host s).state⟩ := by
  have hmap : (Functor.mapConst () act).run host s =
      ⟨(act.run host s).outcome.map fun _ => (), (act.run host s).events, (act.run host s).state⟩ :=
    run_map host (fun _ => ()) act s
  rw [attempt, run_rescue, hmap]
  cases (act.run host s).outcome with
  | ok value => rfl
  | error e => cases e <;> rfl

/-- The requests by which errands are done. -/
inductive Prepares : Request → Prop
  | requires (package interp : String) : Prepares (.require package interp)
  | sources (path interp : String) : Prepares (.source path interp)

section

variable (hhost : host.OnlyRefuses Prepares) (shell : Shell)

include hhost

theorem runs_loadPackage (package : String) (s : σ) :
    Runs host [loading shell.scope.interp package] s ((shell.loadPackage package).run host s) := by
  rw [loadPackage, run_attempt, request, Dialogue.run]
  rcases hhost _ s (.requires package shell.scope.interp) with ⟨version, hreply, -⟩ | ⟨r, hreply⟩
  · rw [hreply]
    exact ⟨rfl, .done hreply (.nil _)⟩
  · rw [hreply]
    exact ⟨rfl, .refused hreply (.nil _)⟩

theorem runs_runStartupScript (path : Path) (s : σ) :
    Runs host [sourcing shell.scope.interp path] s
      ((shell.runStartupScript path).run host s) := by
  have hrun : (Dialogue.source path shell.scope.interp).run host s =
      let request := Request.source path.text shell.scope.interp
      ⟨(host request s).1, [.told (.noted (.sourcing path.text shell.scope.interp)),
        .asked request (host request s).1], (host request s).2⟩ := by
    simp only [Dialogue.source, note, request, bind, Dialogue.bind, Dialogue.run]
    cases (host (.source path.text shell.scope.interp) s).1 <;> rfl
  rw [runStartupScript, run_attempt, hrun]
  rcases hhost _ s (.sources path.text shell.scope.interp) with ⟨value, hreply, -⟩ | ⟨r, hreply⟩
  · simp only [hreply]
    exact ⟨rfl, .done hreply (.nil _)⟩
  · simp only [hreply]
    exact ⟨rfl, .refused hreply (.nil _)⟩

/-- Starting up comes to an end whatever is refused. Every package is loaded once, in order, and then
every script is run once, in order, all in the interpreter of the settings and each in the state in
which what came before has left the host. Each refusal is told once, in order, by the name of what
was refused and by what went wrong, and nothing else is printed. The session then goes on with the
shell as it was started, in the state in which all these requests have left the host. -/
theorem startUp_attempts_all (settings : Settings) (input : List Keystroke) (s : σ) :
    let run := (start settings).startUp.run host s
    let exchanges := Event.exchanges run.events
    run.outcome = .ok () ∧
      Attempted host (errands settings) s exchanges (Event.printed run.events) run.state ∧
      exchanges.map Exchange.request =
        settings.packages.map (fun package => .require package settings.interp) ++
          settings.startup.map (fun path => .source path.text settings.interp) ∧
      Event.printed run.events =
        ((errands settings).zip exchanges).filterMap (fun done => report done.1 done.2) ∧
      run.state = (exchanges.map Exchange.request).foldl (fun t request => (host request t).2) s ∧
      (session settings input).run host s =
        let rest := ((start settings).loop input).run host run.state
        { rest with events := run.events ++ rest.events } := by
  intro run exchanges
  have hpackages := runs_forM (runs_loadPackage hhost (start settings)) settings.packages s
  have hscripts := runs_forM (runs_runStartupScript hhost (start settings)) settings.startup
  obtain ⟨houtcome, hattempted⟩ : Runs host (errands settings) s run := hpackages.bind hscripts
  have hrequests := hattempted.requests_eq
  refine ⟨houtcome, hattempted, ?_, hattempted.fragments_eq, ?_, ?_⟩
  · rw [hrequests, errands, List.map_append, List.map_map, List.map_map]
    rfl
  · rw [hrequests]
    exact hattempted.state_eq
  · rw [session, run_bind, houtcome]

end

/-- A host with one package, that runs a script only if another was tried before. It remembers what
was asked of it. -/
def provisioned : Host (List String)
  | .require package _, asked =>
    (if package = "Tcl" then .ok (.text "8.6")
      else .error (.rejected ⟨"refused", [], "", some ("no package " ++ package)⟩),
      asked ++ [package])
  | .source path _, asked =>
    (if asked.contains "a.tcl" then .ok .nothing
      else .error (.rejected ⟨"too early", [], "", none⟩),
      asked ++ [path])
  | .query _ call, asked => (.error (.rejected ⟨"nothing to look at", call.words, "", none⟩), asked)
  | .evaluate _ _ script, asked => (.ok script, asked)
  | .isComplete _, asked => (.ok true, asked)

theorem onlyRefuses_provisioned : provisioned.OnlyRefuses Prepares := by
  intro request asked hprepares
  cases hprepares with
  | requires package interp =>
      by_cases htcl : package = "Tcl"
      · exact .inl ⟨.text "8.6", if_pos htcl, trivial⟩
      · exact .inr ⟨_, if_neg htcl⟩
  | sources path interp =>
      by_cases htried : asked.contains "a.tcl" = true
      · exact .inl ⟨.nothing, if_pos htried, trivial⟩
      · exact .inr ⟨_, if_neg htried⟩

/-- Settings half of which this host refuses. -/
def demanding : Settings where
  packages := ["nsf", "Tcl"]
  startup := [⟨.here, ["a.tcl"]⟩, ⟨.here, ["b.tcl"]⟩]

theorem startUp_attempts_demanding :
    provisioned.OnlyRefuses Prepares ∧
    ((start demanding).startUp.run provisioned []).outcome = .ok () ∧
    Event.printed ((start demanding).startUp.run provisioned []).events =
      [⟨.error, "package require nsf: no package nsf"⟩, ⟨.error, "source a.tcl: too early"⟩] ∧
    ((start demanding).startUp.run provisioned []).state = ["nsf", "Tcl", "a.tcl", "b.tcl"] := by
  obtain ⟨houtcome, -, hrequests, hprinted, hstate, -⟩ :=
    startUp_attempts_all onlyRefuses_provisioned demanding [] []
  refine ⟨onlyRefuses_provisioned, houtcome, ?_, ?_⟩
  · rw [hprinted]
    rfl
  · rw [hstate, hrequests]
    rfl

end Shell

end TabCompletion
