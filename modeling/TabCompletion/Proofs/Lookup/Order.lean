import TabCompletion.Completer
import TabCompletion.Proofs.Dialogue.Agreement
import TabCompletion.Proofs.Offer.Order

/-! # Lookups do not show the order in which names are listed

Every lookup sorts what it finds, and what it asks next depends at most on whether something was
found. So two hosts that list the same names in different orders are asked the same, and the same
comes of it. -/

namespace TabCompletion

open Dialogue

namespace Lookup

variable (scope : Scope)

theorem inStep_commands (typed : String) :
    InStep Eq (commands scope typed) (commands scope typed) := by
  refine inStep_query_bind fun found found' h => ?_
  exact inStep_pure (Offer.ofCandidates_eq_of_perm h typed)

theorem inStep_elements (typed array element : String) :
    InStep Eq (elements scope typed array element) (elements scope typed array element) := by
  refine inStep_query_bind fun found found' h => ?_
  -- the log tells how many elements were found, which is the same in any order
  rw [List.Perm.length_eq h]
  exact .tell _ (inStep_pure (offerElements_eq_of_perm h typed array element))

theorem inStep_vars (typed : String) : InStep Eq (vars scope typed) (vars scope typed) := by
  unfold vars
  split
  · exact inStep_elements scope typed _ _
  · refine inStep_query_bind fun found found' h => ?_
    exact inStep_pure (Offer.ofCandidates_eq_of_perm h typed)

/-! ## Methods -/

theorem inStep_objectName (receiver : Receiver) :
    InStep Eq (receiver.objectName scope) (receiver.objectName scope) := by
  cases receiver with
  | named name => exact inStep_pure rfl
  | heldBy holder => exact inStep_query scope .value _

theorem inStep_ooMethods (object typed : String) :
    InStep List.Perm (ooMethods scope object typed) (ooMethods scope object typed) := by
  refine inStep_query_bind fun known known' h => ?_
  cases h
  split
  · refine inStep_query_bind fun found found' h => ?_
    exact inStep_pure (List.Perm.filter _ h)
  · exact inStep_pure (.refl _)

theorem inStep_nsfLoaded : InStep Eq (nsfLoaded scope) (nsfLoaded scope) := by
  refine inStep_query_bind fun found found' h => inStep_pure ?_
  rw [List.Perm.isEmpty_eq h]

theorem inStep_nsfAbsolute (typed : String) :
    InStep List.Perm (nsfAbsolute scope typed) (nsfAbsolute scope typed) := by
  refine inStep_query_bind fun found found' hfound => ?_
  refine inStep_query_bind fun children children' hchildren => ?_
  exact inStep_pure (List.Perm.append hfound hchildren)

theorem inStep_nsfMethods (object typed : String) :
    InStep List.Perm (nsfMethods scope object typed) (nsfMethods scope object typed) := by
  refine (inStep_nsfLoaded scope).bind fun loaded loaded' h => ?_
  cases h
  split
  · refine inStep_query_bind fun known known' h => ?_
    cases h
    split
    · split
      · exact inStep_nsfAbsolute scope typed
      · exact inStep_query scope .names _
    · exact inStep_pure (.refl _)
  · exact inStep_pure (.refl _)

theorem inStep_xotclMethods (object typed : String) :
    InStep List.Perm (xotclMethods scope object typed) (xotclMethods scope object typed) := by
  refine inStep_query_bind fun loaded loaded' h => ?_
  cases h
  split
  · refine inStep_query_bind fun known known' h => ?_
    cases h
    split
    · exact inStep_query scope .names _
    · exact inStep_pure (.refl _)
  · exact inStep_pure (.refl _)

theorem inStep_candidates (object typed : String) (system : ObjectSystem) :
    InStep List.Perm (candidates scope object typed system)
      (candidates scope object typed system) := by
  cases system with
  | ensemble => exact .tell _ (.done (.refl _))
  | oo => exact inStep_ooMethods scope object typed
  | snit => exact .tell _ (.done (.refl _))
  | nsf => exact inStep_nsfMethods scope object typed
  | xotcl => exact inStep_xotclMethods scope object typed

theorem inStep_methods (typed : String) (tag : ObjectSystem.Tag) (token : String) :
    InStep Eq (methods scope typed tag token) (methods scope typed tag token) := by
  refine (inStep_objectName scope _).bind fun object object' h => ?_
  cases h
  cases tag with
  | known system =>
      refine (inStep_candidates scope object typed system).bind fun found found' h => ?_
      exact inStep_pure (Offer.ofCandidates_eq_of_perm h typed)
  | unknown name => exact .tell _ (.done rfl)

/-- The offers of a system are equal in both runs, so the same system is the first to find any. -/
theorem inStep_firstMethods (typed token : String) (tags : List ObjectSystem.Tag) :
    InStep Eq (firstMethods scope typed token tags) (firstMethods scope typed token tags) := by
  induction tags with
  | nil => exact inStep_pure rfl
  | cons tag rest ih =>
      refine (inStep_methods scope typed tag token).bind fun offer offer' h => ?_
      cases h
      split
      · exact ih
      · exact inStep_pure rfl

end Lookup

namespace Completer

variable (completer : Completer) (scope : Scope)

theorem inStep_offer? (draft : Draft) :
    InStep Eq (completer.offer? scope draft) (completer.offer? scope draft) := by
  unfold offer?
  split
  · exact (Lookup.inStep_vars scope _).bind fun offer offer' h => inStep_pure (by rw [h])
  · split
    · split
      · exact inStep_pure rfl
      · exact (Lookup.inStep_commands scope _).map fun offer offer' h => by rw [h]
    · exact (Lookup.inStep_firstMethods scope _ _ _).map fun offer offer' h => by rw [h]
    · exact inStep_pure rfl

theorem inStep_resolve (text : String) :
    InStep Eq (completer.resolve scope text) (completer.resolve scope text) :=
  (inStep_offer? completer scope _).bind fun offer offer' h => inStep_pure (by rw [h])

theorem inStep_edits (text : String) :
    InStep Eq (completer.edits scope text) (completer.edits scope text) := by
  have hfound := (inStep_resolve completer scope text).map (S := Eq) (f := editsFor) (g := editsFor)
    fun found found' h => by rw [h]
  exact hfound.rescue fun r => .tell _ (.done rfl)

end Completer

namespace Lookup

variable {σ τ : Type} {host : Host σ} {host' : Host τ} {related : σ → τ → Prop}

/-- What comes of a lookup does not depend on the order in which names are listed: with two hosts
whose answers differ at most in that, all lookups and completions have the same outcomes, failures
included. -/
theorem outcomes_eq_of_agree (h : host.Agree related host') {s : σ} {t : τ} (hst : related s t)
    (scope : Scope) :
    (∀ typed, ((commands scope typed).run host s).outcome =
      ((commands scope typed).run host' t).outcome) ∧
    (∀ typed, ((vars scope typed).run host s).outcome =
      ((vars scope typed).run host' t).outcome) ∧
    (∀ typed tag token, ((methods scope typed tag token).run host s).outcome =
      ((methods scope typed tag token).run host' t).outcome) ∧
    (∀ typed token tags, ((anyMethods scope typed token tags).run host s).outcome =
      ((anyMethods scope typed token tags).run host' t).outcome) ∧
    ∀ (completer : Completer) (text : String),
      ((completer.resolve scope text).run host s).outcome =
        ((completer.resolve scope text).run host' t).outcome ∧
      ((completer.edits scope text).run host s).outcome =
        ((completer.edits scope text).run host' t).outcome := by
  refine ⟨?_, ?_, ?_, ?_, ?_⟩
  · intro typed
    exact (inStep_commands scope typed).outcome_run_eq h hst
  · intro typed
    exact (inStep_vars scope typed).outcome_run_eq h hst
  · intro typed tag token
    exact (inStep_methods scope typed tag token).outcome_run_eq h hst
  · intro typed token tags
    exact (inStep_firstMethods scope typed token _).outcome_run_eq h hst
  · intro completer text
    exact ⟨(Completer.inStep_resolve completer scope text).outcome_run_eq h hst,
      (Completer.inStep_edits completer scope text).outcome_run_eq h hst⟩

/-- A host that lists the same names to every query. -/
def listing (names : List String) : Host Unit
  | .query .names _, _ => (.ok names, ())
  | .query .flag _, _ => (.ok true, ())
  | .query .value _, _ => (.ok "o", ())
  | .evaluate .., _ => (.error .unable, ())
  | .isComplete _, _ => (.error .unable, ())
  | .source .., _ => (.error .unable, ())
  | .require .., _ => (.error .unable, ())

theorem agree_listing {names names' : List String} (h : names.Perm names') :
    (listing names).Agree (fun _ _ => True) (listing names') := by
  intro kind call s t _
  cases kind with
  | names => exact ⟨.ok h, trivial⟩
  | flag => exact ⟨.ok rfl, trivial⟩
  | value => exact ⟨.ok rfl, trivial⟩

theorem outcomes_eq_listing :
    let host := listing ["go", "get", "ga", "x"]
    let host' := listing ["x", "ga", "get", "go"]
    host.Agree (fun _ _ => True) host' ∧
      (((Completer.of []).edits .main "$o g").run host ()).outcome =
        (((Completer.of []).edits .main "$o g").run host' ()).outcome := by
  have hperm : ["go", "get", "ga", "x"].Perm ["x", "ga", "get", "go"] := by decide
  have hagree := agree_listing hperm
  exact ⟨hagree, ((outcomes_eq_of_agree hagree trivial .main).2.2.2.2 (Completer.of []) "$o g").2⟩

end Lookup

end TabCompletion
