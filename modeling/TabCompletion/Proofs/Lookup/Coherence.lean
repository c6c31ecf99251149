import TabCompletion.Lookup.Methods
import TabCompletion.Proofs.Dialogue.Terms
import TabCompletion.Proofs.Offer.Candidates
import TabCompletion.ScriptedHost

/-! # Stems under whatever replies

An interpreter may answer with names that do not begin with what was typed: a name that was typed
relative to a namespace is answered with absolute ones. The stem that a lookup offers begins all the
names only if there is one of them, or if they all go on from what was typed. -/

namespace TabCompletion

open Dialogue

namespace Offer

/-- Whether an offer is coherent shows in the names that are offered. -/
theorem coherent_iff_names (typed : String) (candidates : List String) :
    let offer := ofCandidates typed candidates
    offer.Coherent ↔
      offer.names.length = 1 ∨ ∀ name ∈ offer.names, typed.toList <+: name.toList := by
  have hperm := ascending_perm candidates
  simp only [coherent_ofCandidates_iff, names_ofCandidates, hperm.length_eq, hperm.mem_iff]

end Offer

namespace Lookup

variable {σ : Type} {host : Host σ} {s : σ} {scope : Scope} {typed : String}

theorem outcome_run_commands {found : List String}
    (h : (host (scope.looking .names ["::info", "commands", Glob.startingWith typed]) s).1 =
      .ok found) :
    ((commands scope typed).run host s).outcome = .ok (Offer.ofCandidates typed found) := by
  rw [commands, run_query_bind h]
  rfl

/-- The methods that the built-in system names are only those that go on from what was typed. -/
theorem begins_of_ooMethods {object : String} {found : List String}
    (h : ((ooMethods scope object typed).run host s).outcome = .ok found) :
    ∀ name ∈ found, typed.toList <+: name.toList := by
  obtain ⟨known, -, hknown⟩ := exists_of_outcome_run_bind h
  split at hknown
  · obtain ⟨listed, -, hlisted⟩ := exists_of_outcome_run_bind hknown
    obtain rfl := Except.ok.inj hlisted
    intro name hname
    exact Text.prefix_of_mem_filter hname
  · obtain rfl := Except.ok.inj hknown
    simp

/-- Whatever a lookup of methods offers are the candidates of the system. -/
theorem exists_candidates_of_methods {tag : ObjectSystem.Tag} {token : String} {offer : Offer}
    (h : ((methods scope typed tag token).run host s).outcome = .ok offer) :
    ∃ found, offer = Offer.ofCandidates typed found ∧
      (tag = .known .oo → ∀ name ∈ found, typed.toList <+: name.toList) := by
  obtain ⟨object, -, hoffer⟩ := exists_of_outcome_run_bind h
  cases tag with
  | unknown name =>
      obtain rfl := Except.ok.inj hoffer
      exact ⟨[], rfl, nofun⟩
  | known system =>
      obtain ⟨found, hfound, hdone⟩ := exists_of_outcome_run_bind hoffer
      obtain rfl := Except.ok.inj hdone
      refine ⟨found, rfl, ?_⟩
      rintro ⟨⟩
      exact begins_of_ooMethods hfound

/-- The stem begins every name exactly if there is one name, or if all of them go on from what was
typed. So it is with any candidates, and hence with the commands and the methods that any
interpreter names; the built-in objects' methods always go on from what was typed. -/
theorem coherent_iff_all_begin (host : Host σ) (s : σ) (scope : Scope) (typed : String) :
    (∀ candidates, (Offer.ofCandidates typed candidates).Coherent ↔
      candidates.length = 1 ∨ ∀ name ∈ candidates, typed.toList <+: name.toList) ∧
    (∀ found,
      (host (scope.looking .names ["::info", "commands", Glob.startingWith typed]) s).1 =
        .ok found →
      ∃ offer, ((commands scope typed).run host s).outcome = .ok offer ∧
        offer.names.Perm found ∧
        (offer.Coherent ↔ found.length = 1 ∨ ∀ name ∈ found, typed.toList <+: name.toList)) ∧
    ∀ tag token offer, ((methods scope typed tag token).run host s).outcome = .ok offer →
      (offer.Coherent ↔
        offer.names.length = 1 ∨ ∀ name ∈ offer.names, typed.toList <+: name.toList) ∧
      (tag = .known .oo → offer.Coherent) := by
  refine ⟨Offer.coherent_ofCandidates_iff typed, ?_, ?_⟩
  · intro found hfound
    refine ⟨_, outcome_run_commands hfound, ?_, Offer.coherent_ofCandidates_iff typed found⟩
    rw [Offer.names_ofCandidates]
    exact ascending_perm found
  · intro tag token offer hoffer
    obtain ⟨found, rfl, hoo⟩ := exists_candidates_of_methods hoffer
    refine ⟨Offer.coherent_iff_names typed found, ?_⟩
    intro htag
    exact (Offer.coherent_ofCandidates_iff typed found).mpr (.inr (hoo htag))

/-- An interpreter that answers a relative name with absolute ones. -/
def qualified : ScriptedHost :=
  ⟨[.names ["::foo::baz", "::foo::bar"]], []⟩

theorem coherent_iff_qualified :
    ∃ offer, ((commands .main "foo::b").run ScriptedHost.host qualified).outcome = .ok offer ∧
      offer.names.Perm ["::foo::baz", "::foo::bar"] ∧ ¬ offer.Coherent := by
  have hcoherent := coherent_iff_all_begin ScriptedHost.host qualified .main "foo::b"
  obtain ⟨offer, houtcome, hperm, hiff⟩ := hcoherent.2.1 ["::foo::baz", "::foo::bar"] rfl
  exact ⟨offer, houtcome, hperm, hiff.not.mpr (by decide)⟩

/-- Of absolute names none goes on from the relative one that was typed, so that stays as the stem,
and begins none of them. -/
theorem not_forall_coherent :
    ¬ ∀ (typed : String) (candidates : List String), candidates ≠ [] →
      (Offer.ofCandidates typed candidates).Coherent := by
  intro h
  have hcoherent := h "foo::b" ["::foo::baz", "::foo::bar"] (by simp)
  have hcommon : (Offer.ofCandidates "foo::b" ["::foo::baz", "::foo::bar"]).common = "foo::b" := by
    rfl
  have hmem : "::foo::bar" ∈
      (Offer.ofCandidates "foo::b" ["::foo::baz", "::foo::bar"]).names := by
    rw [Offer.names_ofCandidates, (ascending_perm _).mem_iff]
    simp
  have hbegins := hcoherent "::foo::bar" hmem
  rw [hcommon] at hbegins
  exact absurd hbegins (by decide)

end Lookup

end TabCompletion
