import TabCompletion.Proofs.Dialogue.Replies
import TabCompletion.World.Host

/-! # What a world replies to queries

A query leaves a world as it is but for the record of the call, so that the replies to any number of
queries are those that the world would give to each of them first. -/

namespace TabCompletion

open Dialogue

namespace World

variable {α : Type}

/-- The interpreter and the namespace of a scope exist. -/
def Hosts (w : World) (scope : Scope) : Prop :=
  scope.interp ∈ w.interps ∧ scope.ns ∈ w.namespaces

instance (w : World) (scope : Scope) : Decidable (w.Hosts scope) :=
  inferInstanceAs (Decidable (_ ∧ _))

/-- What a world replies as it is. -/
def replies (w : World) : Replies :=
  fun r => (host r w).1

/-! ## Dialogues of queries -/

/-- A query about a scope is answered as at first, whatever was asked before, and changes nothing but
the record of calls. -/
theorem reply_of_covers {scope : Scope} (w : World) (r : Request) (s : World)
    (hcovers : scope.Covers r) (hs : ∃ calls, s = { w with calls }) :
    (host r s).1 = w.replies r ∧ ∃ calls, (host r s).2 = { w with calls } := by
  obtain ⟨calls, rfl⟩ := hs
  cases r with
  | query kind call => exact ⟨rfl, _, rfl⟩
  | evaluate interp ns script => exact hcovers.elim
  | isComplete script => exact hcovers.elim
  | source path interp => exact hcovers.elim
  | require package interp => exact hcovers.elim

theorem run_of_asks_after {scope : Scope} {d : Dialogue α} (hd : d.Asks scope.Covers) (w : World)
    (calls : List Call) :
    (d.run host { w with calls }).outcome = d.outcome w.replies ∧
      ∃ calls', (d.run host { w with calls }).state = { w with calls := calls' } :=
  run_outcome_of_replies (reply_of_covers w) hd ⟨calls, rfl⟩

theorem events_run_of_asks_after {scope : Scope} {d : Dialogue α} (hd : d.Asks scope.Covers)
    (w : World) (calls : List Call) :
    (d.run host { w with calls }).events = (d.run host w).events :=
  events_run_eq_of_replies (reply_of_covers w) hd ⟨calls, rfl⟩ ⟨w.calls, rfl⟩

theorem run_of_asks {scope : Scope} {d : Dialogue α} (hd : d.Asks scope.Covers) (w : World) :
    (d.run host w).outcome = d.outcome w.replies ∧
      ∃ calls, (d.run host w).state = { w with calls } :=
  run_of_asks_after hd w w.calls

theorem run_outcome {scope : Scope} {d : Dialogue α} (hd : d.Asks scope.Covers) (w : World) :
    (d.run host w).outcome = d.outcome w.replies :=
  (run_of_asks hd w).1

/-! ## Scopes that exist, and others -/

/-- A query about a scope that exists is answered by its words. -/
theorem replies_to {w : World} {scope : Scope} (h : w.Hosts scope) (kind : Kind)
    (words : List String) :
    w.replies.to scope kind words = w.answer scope.ns words >>= readAs kind := by
  simp [Replies.to, replies, host, look, h.1, h.2]

theorem replies_core {w : World} {scope : Scope} (h : w.Hosts scope) {kind : Kind}
    {words : List String} {value : Value} {answer : kind.Answer}
    (hcore : w.coreAnswer? scope.ns words = some (.ok value))
    (hread : readAs kind value = .ok answer) : w.replies.to scope kind words = .ok answer := by
  simp only [replies_to h, World.answer, hcore]
  exact hread

theorem replies_extension {w : World} {scope : Scope} (h : w.Hosts scope) {kind : Kind}
    {words : List String} {value : Value} {answer : kind.Answer}
    (hcore : w.coreAnswer? scope.ns words = none)
    (hextension : w.extensionAnswer? words = some value)
    (hread : readAs kind value = .ok answer) : w.replies.to scope kind words = .ok answer := by
  simp only [replies_to h, World.answer, hcore, hextension]
  exact hread

/-- A query about any other scope is refused. -/
theorem replies_to_of_not_hosts {w : World} {scope : Scope} (h : ¬ w.Hosts scope) (kind : Kind)
    (words : List String) : ∃ r, w.replies.to scope kind words = .error (.rejected r) := by
  by_cases hinterp : scope.interp ∈ w.interps
  · have hns : scope.ns ∉ w.namespaces := fun hns => h ⟨hinterp, hns⟩
    exact ⟨_, by simp [Replies.to, replies, host, look, hinterp, hns]; rfl⟩
  · exact ⟨_, by simp [Replies.to, replies, host, look, hinterp]; rfl⟩

/-! ## Names and values -/

@[simp]
theorem readAs_texts (names : List String) : readAs .names (texts names) = .ok names := by
  simp [readAs, asNames, texts, Function.comp_def, Value.asText]

section

variable {w : World} {scope : Scope} (h : w.Hosts scope)

include h

theorem replies_commands (pattern : String) :
    w.replies.to scope .names ["::info", "commands", pattern] =
      .ok (w.commands.filter (Glob.admits pattern)) :=
  replies_core h rfl (readAs_texts _)

theorem replies_vars (pattern : String) :
    w.replies.to scope .names ["::info", "vars", pattern] =
      .ok (w.variableNames.filter (Glob.admits pattern)) :=
  replies_core h rfl (readAs_texts _)

theorem replies_elements (array pattern : String) :
    w.replies.to scope .names ["::array", "names", array, pattern] =
      .ok (((w.arrays.lookup array).getD []).filter (Glob.admits pattern)) :=
  replies_core h rfl (readAs_texts _)

theorem replies_children (parent pattern : String) :
    w.replies.to scope .names ["::namespace", "children", parent, pattern] =
      .ok (w.childNamespaces parent pattern) :=
  replies_core h rfl (readAs_texts _)

theorem replies_reading {holder object : String} (hset : w.scalars.lookup holder = some object) :
    w.replies.to scope .value ["::set", holder] = .ok object := by
  have hcore : w.coreAnswer? scope.ns ["::set", holder] = some (.ok (.text object)) := by
    simp only [coreAnswer?, hset]
  exact replies_core h hcore rfl

theorem replies_reading_of_unset {holder : String} (hunset : w.scalars.lookup holder = none) :
    ∃ r, w.replies.to scope .value ["::set", holder] = .error (.rejected r) := by
  rw [replies_to h]
  exact ⟨_, by simp only [answer, coreAnswer?, hunset]; rfl⟩

end

end World

end TabCompletion
