import Mathlib.Data.List.TakeDrop
import Mathlib.Data.List.TakeWhile
import TabCompletion.Proofs.Dialogue.Success
import TabCompletion.Proofs.Dialogue.Terms
import TabCompletion.Shell

/-! # What comes of a script

A script either moves the shell to another namespace or is evaluated in the present one. All the
ways in which that can end are listed once, and every run ends in one of them. -/

namespace TabCompletion

open Dialogue

variable {σ : Type}

/-- The terms of hosts that only refuse. -/
def Terms.refusing (P : Request → Prop) : Terms where
  trusts request reply := P request → OkOrRefused (fun _ => True) reply
  allows _ _ := True

namespace Shell

/-! ## The command to move -/

/-- A script whose first word is the command to move; what follows it, trimmed, is the name of a
namespace, or empty. -/
def Moves (script name : String) : Prop :=
  ∃ lead rest : List Char, script.toList = lead ++ (moveCommand.toList ++ rest) ∧
    (∀ c ∈ lead, Text.isBlank c = true) ∧ (∀ c ∈ rest.head?, Text.isBlank c = true) ∧
    name = Text.trimBlanks (String.ofList rest)

theorem firstPiece?_of_append {text first : String} {lead rest : List Char}
    (htext : text.toList = lead ++ (first.toList ++ rest)) (hfirst : first ≠ "")
    (hlead : ∀ c ∈ lead, Text.isBlank c = true) (hword : ∀ c ∈ first.toList, Text.isBlank c = false)
    (hrest : ∀ c ∈ rest.head?, Text.isBlank c = true) :
    Text.firstPiece? text = some (first, Text.trimBlanks (String.ofList rest)) := by
  obtain ⟨c, word, hcons⟩ : ∃ c word, first.toList = c :: word :=
    List.exists_cons_of_ne_nil (by simpa using hfirst)
  rw [hcons] at htext hword
  have hdrop : text.toList.dropWhile Text.isBlank = c :: (word ++ rest) := by
    rw [htext, List.dropWhile_append_of_pos hlead]
    simp [hword c (by simp)]
  have htake : (c :: (word ++ rest)).takeWhile (fun d => !Text.isBlank d) = c :: word := by
    rw [← List.cons_append, List.takeWhile_append_of_pos (by simpa using hword)]
    cases rest with
    | nil => simp
    | cons d rest => simp [hrest d rfl]
  rw [Text.firstPiece?, hdrop]
  simp only [htake]
  rw [← hcons]
  simp [← List.cons_append, ← hcons]

theorem exists_append_of_firstPiece? {text first rest : String}
    (h : Text.firstPiece? text = some (first, rest)) :
    ∃ lead after : List Char, text.toList = lead ++ (first.toList ++ after) ∧
      (∀ c ∈ lead, Text.isBlank c = true) ∧ (∀ c ∈ after.head?, Text.isBlank c = true) ∧
      rest = Text.trimBlanks (String.ofList after) := by
  unfold Text.firstPiece? at h
  split at h
  · cases h
  · next c cs hdrop =>
    obtain ⟨rfl, rfl⟩ := Prod.mk.inj (Option.some.inj h)
    refine ⟨text.toList.takeWhile Text.isBlank,
      (c :: cs).dropWhile (fun d => !Text.isBlank d), ?_, ?_, ?_, ?_⟩
    · rw [String.toList_ofList, List.takeWhile_append_dropWhile, ← hdrop,
        List.takeWhile_append_dropWhile]
    · intro d hd
      exact List.mem_takeWhile_imp hd
    · intro d hd
      have hnot := List.head?_dropWhile_not (fun d => !Text.isBlank d) (c :: cs)
      rw [Option.mem_def.mp hd] at hnot
      simpa using hnot
    · have hwhole := List.prefix_iff_eq_append.mp
        (List.takeWhile_prefix (l := c :: cs) fun d => !Text.isBlank d)
      rw [List.append_cancel_left (hwhole.trans List.takeWhile_append_dropWhile.symm)]

/-- The script's own words decide whether it moves, and where to. -/
theorem moveTarget?_eq_some_iff {script name : String} :
    moveTarget? script = some name ↔ Moves script name := by
  constructor
  · intro h
    unfold moveTarget? at h
    split at h
    · next first rest hpiece =>
      split at h
      · next hfirst =>
        obtain rfl := Option.some.inj h
        subst hfirst
        exact exists_append_of_firstPiece? hpiece
      · cases h
    · cases h
  · rintro ⟨lead, rest, hscript, hlead, hrest, rfl⟩
    have hword : moveCommand.toList.all (fun c => !Text.isBlank c) = true := by decide
    rw [moveTarget?, firstPiece?_of_append hscript (by decide) hlead (by simpa using hword) hrest]
    exact if_pos rfl

/-! ## Single scripts -/

/-- The query whether a namespace exists. -/
abbrev seeking (scope : Scope) (name : String) : Request :=
  scope.looking .flag ["::namespace", "exists", name]

/-- The query for the full name of a namespace. -/
abbrev entering (scope : Scope) (name : String) : Request :=
  scope.looking .value ["::namespace", "inscope", name, "::namespace current"]

/-- The requests by which scripts are run. -/
inductive Sends : Request → Prop
  | seeks (scope : Scope) (name : String) : Sends (seeking scope name)
  | enters (scope : Scope) (name : String) : Sends (entering scope name)
  | evaluates (interp ns script : String) : Sends (.evaluate interp ns script)

/-- What is exchanged and printed for a script, and the shell after it. Every query and every
evaluation is sent from where the shell is; the shell is elsewhere afterwards only if a namespace
was found and its full name was given; and one error is printed where something failed. -/
inductive Executes (shell : Shell) (script : String) :
    List Exchange → List Fragment → Shell → Prop
  | unnamed : Moves script "" → Executes shell script [] [⟨.plain, shell.scope.ns⟩] shell
  | unsought {name : String} {r : Rejection} : Moves script name → name ≠ "" →
      Executes shell script [⟨seeking shell.scope name, .error (.rejected r)⟩]
        [⟨.error, r.reason⟩] shell
  | absent {name : String} : Moves script name → name ≠ "" →
      Executes shell script [⟨seeking shell.scope name, .ok false⟩]
        [⟨.error, "namespace " ++ name ++ " does not exist"⟩] shell
  | unentered {name : String} {r : Rejection} : Moves script name → name ≠ "" →
      Executes shell script
        [⟨seeking shell.scope name, .ok true⟩,
          ⟨entering shell.scope name, .error (.rejected r)⟩]
        [⟨.error, r.reason⟩] shell
  | moved {name ns : String} : Moves script name → name ≠ "" →
      Executes shell script
        [⟨seeking shell.scope name, .ok true⟩, ⟨entering shell.scope name, .ok ns⟩]
        [] { shell with scope := shell.scope.within (some ns) }
  | evaluated {result : String} : (∀ name, ¬ Moves script name) →
      Executes shell script
        [⟨.evaluate shell.scope.interp shell.scope.ns script, .ok result⟩]
        (if result = "" then [] else [⟨.plain, result⟩]) shell
  | failed {r : Rejection} : (∀ name, ¬ Moves script name) →
      Executes shell script
        [⟨.evaluate shell.scope.interp shell.scope.ns script, .error (.rejected r)⟩]
        [⟨.error, r.reason⟩] shell

variable {shell next : Shell} {script name : String}

/-- A shell that has executed a script, and what it did for it. -/
def Executed (shell : Shell) (script : String) (events : List Event)
    (outcome : Except Failure Shell) : Prop :=
  ∃ next, outcome = .ok next ∧
    Executes shell script (Event.exchanges events) (Event.printed events) next

theorem keeps_enterNamespace (hmoves : Moves script name) :
    (shell.enterNamespace name).Keeps (.refusing Sends) [] (Executed shell script) := by
  by_cases hname : name = ""
  · subst hname
    exact ⟨shell, rfl, .unnamed hmoves⟩
  · rw [enterNamespace, if_neg hname]
    refine ⟨trivial, ?_⟩
    intro reply htrusted
    rcases htrusted (.seeks shell.scope name) with ⟨known, rfl, -⟩ | ⟨r, rfl⟩
    · cases known with
      | false => exact ⟨shell, rfl, .absent hmoves hname⟩
      | true =>
          refine ⟨trivial, ?_⟩
          intro reply htrusted
          rcases htrusted (.enters shell.scope name) with ⟨ns, rfl, -⟩ | ⟨r, rfl⟩
          · exact ⟨_, rfl, .moved hmoves hname⟩
          · exact ⟨shell, rfl, .unentered hmoves hname⟩
    · exact ⟨shell, rfl, .unsought hmoves hname⟩

theorem keeps_evaluate (hstays : ∀ name, ¬ Moves script name) :
    (shell.evaluate script >>= fun _ => pure shell).Keeps (.refusing Sends) []
      (Executed shell script) := by
  refine ⟨trivial, ?_⟩
  intro reply htrusted
  rcases htrusted (.evaluates shell.scope.interp shell.scope.ns script) with
    ⟨result, rfl, -⟩ | ⟨r, rfl⟩
  · have hexecutes : Executes shell script
        [⟨.evaluate shell.scope.interp shell.scope.ns script, .ok result⟩] _ shell :=
      .evaluated hstays
    by_cases hresult : result = ""
    · subst hresult
      exact ⟨shell, rfl, hexecutes⟩
    · rw [if_neg hresult] at hexecutes
      change Keeps _ ((if result = "" then pure () else print .plain result) >>= _) _ _
      rw [if_neg hresult]
      exact ⟨shell, rfl, hexecutes⟩
  · exact ⟨shell, rfl, .failed hstays⟩

theorem keeps_execute (shell : Shell) (script : String) :
    (shell.execute script).Keeps (.refusing Sends) [] (Executed shell script) := by
  unfold execute
  split
  · next name htarget => exact keeps_enterNamespace (moveTarget?_eq_some_iff.mp htarget)
  · next hnone =>
    apply keeps_evaluate
    intro name hmoves
    rw [moveTarget?_eq_some_iff.mpr hmoves] at hnone
    cases hnone

theorem run_execute {host : Host σ} (hhost : host.OnlyRefuses Sends) (shell : Shell)
    (script : String) (s : σ) :
    Executed shell script ((shell.execute script).run host s).events
      ((shell.execute script).run host s).outcome := by
  simpa using ((keeps_execute shell script).run hhost s).1

/-- A script changes nothing of the shell but the namespace. -/
theorem Executes.frame {exchanges : List Exchange} {fragments : List Fragment}
    (h : Executes shell script exchanges fragments next) :
    next.settings = shell.settings ∧ next.pending = shell.pending ∧
      next.scope.interp = shell.scope.interp := by
  cases h <;> exact ⟨rfl, rfl, rfl⟩

theorem Executes.eq_or_moved {exchanges : List Exchange} {fragments : List Fragment}
    (h : Executes shell script exchanges fragments next) :
    next = shell ∨ ∃ name ns, Moves script name ∧ name ≠ "" ∧
      exchanges = [⟨seeking shell.scope name, .ok true⟩, ⟨entering shell.scope name, .ok ns⟩] ∧
      next = { shell with scope := shell.scope.within (some ns) } := by
  cases h with
  | moved hmoves hname => exact .inr ⟨_, _, hmoves, hname, rfl, rfl⟩
  | _ => exact .inl rfl

end Shell

end TabCompletion
