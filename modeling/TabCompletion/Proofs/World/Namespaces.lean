import TabCompletion.Proofs.Dialogue.Refusals
import TabCompletion.Proofs.World.Replies

/-! # The namespaces of a world

Nothing that is asked of a world takes a namespace away, and the full name that it gives of a
namespace is one that it lists. -/

namespace TabCompletion.World

open Dialogue

/-! ## Namespaces stay -/

theorem namespaces_subset_of_statement {w next : World} {words : List String} {value : String}
    (h : w.statement words = .ok (value, next)) : w.namespaces ⊆ next.namespaces := by
  unfold statement at h
  split at h
  all_goals try split at h
  all_goals cases h
  all_goals simp

theorem namespaces_subset_statements (w : World) (result : String) (script : List (List String)) :
    w.namespaces ⊆ (w.statements result script).2.namespaces := by
  induction script generalizing w result with
  | nil => exact List.Subset.refl _
  | cons words rest ih =>
      rw [statements]
      split
      · next value next hstatement =>
        exact List.Subset.trans (namespaces_subset_of_statement hstatement) (ih next value)
      · exact List.Subset.refl _

theorem namespaces_subset_enter (w : World) (ns : String) :
    w.namespaces ⊆ (w.enter ns).namespaces := by
  unfold enter
  split
  · exact List.Subset.refl _
  · exact List.subset_append_left _ _

theorem namespaces_subset_runScript (w : World) (script : String) :
    w.namespaces ⊆ (w.runScript script).2.namespaces :=
  namespaces_subset_statements w "" (parse script)

theorem namespaces_subset_evaluate (w : World) (interp ns script : String) :
    w.namespaces ⊆ (w.evaluate interp ns script).2.namespaces := by
  rw [evaluate]
  split
  · exact List.Subset.trans (namespaces_subset_enter (w.log _) ns)
      (namespaces_subset_runScript _ script)
  · exact List.Subset.refl _

theorem mem_namespaces_enter (w : World) (ns : String) : ns ∈ (w.enter ns).namespaces := by
  unfold enter
  split
  · next hlisted => simpa using hlisted
  · simp

/-- A script makes the namespace in which it is run. -/
theorem mem_namespaces_evaluate {w : World} {interp : String} (hinterp : interp ∈ w.interps)
    (ns script : String) : ns ∈ (w.evaluate interp ns script).2.namespaces := by
  have hruns : w.interps.contains interp = true := by simpa using hinterp
  rw [evaluate, if_pos hruns]
  exact namespaces_subset_runScript _ script (mem_namespaces_enter _ ns)

theorem namespaces_subset_source (w : World) (path interp : String) :
    w.namespaces ⊆ (w.source path interp).2.namespaces := by
  rw [source]
  split
  · split
    · exact namespaces_subset_runScript (w.log _) _
    · exact List.Subset.refl _
    · exact List.Subset.refl _
  · exact List.Subset.refl _

theorem namespaces_subset_require (w : World) (package interp : String) :
    w.namespaces ⊆ (w.require package interp).2.namespaces := by
  rw [require]
  split
  · split <;> exact List.Subset.refl _
  · exact List.Subset.refl _

theorem namespaces_subset_host (request : Request) (w : World) :
    w.namespaces ⊆ (host request w).2.namespaces := by
  cases request with
  | query kind call => exact List.Subset.refl _
  | evaluate interp ns script => exact namespaces_subset_evaluate w interp ns script
  | isComplete script => exact List.Subset.refl _
  | source path interp => exact namespaces_subset_source w path interp
  | require package interp => exact namespaces_subset_require w package interp

/-! ## Full names -/

theorem ne_empty_of_mem_readings {ns name reading : String} (h : reading ∈ readings ns name) :
    reading ≠ "" := by
  rintro rfl
  unfold readings at h
  split at h
  · next hbegins =>
    obtain rfl := List.mem_singleton.mp h
    exact absurd hbegins (by decide)
  · simp at h

theorem mem_of_qualify? {w : World} {ns name qualified : String}
    (h : w.qualify? ns name = some qualified) : qualified ∈ w.namespaces ∧ qualified ≠ "" := by
  have hlisted := List.find?_some h
  exact ⟨by simpa using hlisted, ne_empty_of_mem_readings (List.mem_of_find?_eq_some h)⟩

/-- A full name stands for itself, wherever it is used. -/
theorem qualify?_of_mem {w : World} {name : String} (hname : name ∈ w.namespaces)
    (hfull : Text.beginsWith "::" name = true) (ns : String) : w.qualify? ns name = some name := by
  simp [qualify?, readings, hfull, hname]

section

variable {w : World} {scope : Scope} {name : String}

theorem replies_exists (h : w.Hosts scope) (name : String) :
    w.replies.to scope .flag ["::namespace", "exists", name] =
      .ok (w.qualify? scope.ns name).isSome :=
  replies_core h rfl rfl

theorem replies_inscope (h : w.Hosts scope) {qualified : String}
    (hqualify : w.qualify? scope.ns name = some qualified) :
    w.replies.to scope .value ["::namespace", "inscope", name, "::namespace current"] =
      .ok qualified := by
  have hcore : w.coreAnswer? scope.ns ["::namespace", "inscope", name, "::namespace current"] =
      some (.ok (.text qualified)) := by
    simp [coreAnswer?, hqualify]
  exact replies_core h hcore rfl

end

/-! ## Refusals -/

theorem okOrRefused_exists (w : World) (scope : Scope) (name : String) :
    OkOrRefused (fun _ => True)
      (w.replies.to scope .flag ["::namespace", "exists", name]) := by
  by_cases h : w.Hosts scope
  · exact .inl ⟨_, replies_exists h name, trivial⟩
  · exact .inr (replies_to_of_not_hosts h _ _)

/-- A world either gives the full name of a namespace that it lists, or it refuses. -/
theorem okOrRefused_inscope (w : World) (scope : Scope) (name : String) :
    OkOrRefused (fun qualified => qualified ∈ w.namespaces ∧ qualified ≠ "")
      (w.replies.to scope .value ["::namespace", "inscope", name, "::namespace current"]) := by
  by_cases h : w.Hosts scope
  · cases hqualify : w.qualify? scope.ns name with
    | some qualified => exact .inl ⟨qualified, replies_inscope h hqualify, mem_of_qualify? hqualify⟩
    | none =>
        right
        simp only [replies_to h, World.answer, coreAnswer?, hqualify]
        exact ⟨_, rfl⟩
  · exact .inr (replies_to_of_not_hosts h _ _)

theorem okOrRefused_evaluate (w : World) (interp ns script : String) :
    OkOrRefused (fun _ => True) (w.evaluate interp ns script).1 := by
  rw [evaluate]
  split
  · rw [runScript]
    simp only
    cases (statements _ "" (parse script)).1 with
    | ok value => exact .inl ⟨value, rfl, trivial⟩
    | error message => exact .inr ⟨_, rfl⟩
  · exact .inr ⟨_, rfl⟩

end TabCompletion.World
