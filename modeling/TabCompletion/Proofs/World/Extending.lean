import TabCompletion.Proofs.Dialogue.Refusals
import TabCompletion.Proofs.World.Methods

/-! # A world offers what goes on from the typed text

Every name that a lookup offers in a world begins with what was typed, unless the lookup is refused:
by a variable that is not set, or by an extension that only seems to be loaded. -/

namespace TabCompletion

open Dialogue

/-! ## Offers -/

namespace Offer

/-- Every name that is offered begins with what was typed. -/
def Extends (typed : String) (offer : Offer) : Prop :=
  ∀ name ∈ offer.names, typed.toList <+: name.toList

theorem extends_nothing (typed : String) : (nothing typed).Extends typed := by
  simp [Extends, nothing]

theorem Reports.extends {typed : String} {names : List String} {offer : Offer}
    (h : offer.Reports typed names) : offer.Extends typed := by
  intro name hname
  exact (h.mem_iff.mp hname).2

end Offer

/-! ## Elements of arrays -/

namespace Lookup

theorem toList_of_arrayElement? {typed array element : String}
    (h : arrayElement? typed = some (array, element)) :
    typed.toList = array.toList ++ '(' :: element.toList := by
  rw [arrayElement?, List.span_eq_takeWhile_dropWhile] at h
  cases hrest : typed.toList.dropWhile (· ≠ '(') with
  | nil =>
      rw [hrest] at h
      simp at h
  | cons c rest =>
      simp only [hrest, Option.some.injEq, Prod.mk.injEq] at h
      obtain ⟨rfl, rfl⟩ := h
      have hc : (typed.toList.dropWhile (· ≠ '(')).head? = some c := by rw [hrest]; rfl
      have hopening := List.head?_dropWhile_not (· ≠ '(') typed.toList
      rw [hc] at hopening
      have hsplit := List.takeWhile_append_dropWhile (p := (· ≠ '(')) (l := typed.toList)
      simp only [ne_eq, decide_not, Bool.not_eq_false', decide_eq_true_eq] at hopening
      rw [hrest, hopening] at hsplit
      simpa using hsplit.symm

theorem elementName_extends {typed array element name : String}
    (htyped : typed.toList = array.toList ++ '(' :: element.toList)
    (hname : element.toList <+: name.toList) :
    typed.toList <+: (elementName array name).toList := by
  obtain ⟨rest, hrest⟩ := hname
  refine ⟨rest ++ [')'], ?_⟩
  simp [elementName, htyped, ← hrest]

theorem names_offerElements (typed array element : String) (found : List String) :
    (offerElements typed array element found).names =
      ascending (found.map (elementName array)) := by
  match found with
  | [] => simp [offerElements, Offer.nothing, ascending]
  | [only] => simp [offerElements, ascending]
  | first :: second :: rest => rfl

theorem mem_offerElements {typed array element name : String} {found : List String}
    (h : name ∈ (offerElements typed array element found).names) :
    ∃ only ∈ found, elementName array only = name := by
  rw [names_offerElements, (ascending_perm _).mem_iff] at h
  exact List.mem_map.mp h

/-- Elements that begin with the part typed after the parenthesis go on from the whole text. -/
theorem extends_offerElements {typed array element : String} {found : List String}
    (htyped : typed.toList = array.toList ++ '(' :: element.toList)
    (hfound : ∀ name ∈ found, element.toList <+: name.toList) :
    (offerElements typed array element found).Extends typed := by
  intro name hname
  obtain ⟨only, honly, rfl⟩ := mem_offerElements hname
  exact elementName_extends htyped (hfound only honly)

end Lookup

/-! ## Lookups -/

namespace World

variable {w : World} {scope : Scope}

theorem extends_commands (h : w.Hosts scope) (typed : String) :
    OkOrRefused (Offer.Extends typed) ((Lookup.commands scope typed).outcome w.replies) :=
  .inl ⟨_, outcome_commands h typed, (Offer.reports_ofCandidates typed w.commands).extends⟩

theorem extends_vars (h : w.Hosts scope) (typed : String) :
    OkOrRefused (Offer.Extends typed) ((Lookup.vars scope typed).outcome w.replies) := by
  unfold Lookup.vars
  split
  · rename_i array element heq
    rw [Lookup.elements, outcome_query_bind (replies_elements h _ _),
      Glob.filter_admits_startingWith]
    refine .inl ⟨_, rfl, ?_⟩
    refine Lookup.extends_offerElements (Lookup.toList_of_arrayElement? heq) ?_
    intro name hname
    exact Text.prefix_of_mem_filter hname
  · rw [outcome_query_bind (replies_vars h _), Glob.filter_admits_startingWith]
    exact .inl ⟨_, rfl, (Offer.reports_ofCandidates typed w.variableNames).extends⟩

/-- The object of a method is known, unless it is held by a variable that is not set. -/
theorem okOrRefused_objectName (h : w.Hosts scope) (receiver : Receiver) :
    OkOrRefused (fun _ => True) ((receiver.objectName scope).outcome w.replies) := by
  cases receiver with
  | named name => exact okOrRefused_pure trivial
  | heldBy holder =>
      rw [Receiver.objectName, outcome_query w.replies scope .value]
      cases hlookup : w.scalars.lookup holder with
      | none => exact .inr (replies_reading_of_unset h hlookup)
      | some object => exact .inl ⟨object, replies_reading h hlookup, trivial⟩

/-- The names that a system lists for one object, by how a name begins. An extension whose command
does not exist lists none. -/
def Lists (w : World) (tag : ObjectSystem.Tag) (listed : String → List String) : Prop :=
  (∃ object, listed = fun typed => w.methodsListed object typed tag) ∨ listed = fun _ => []

/-- Whatever is typed, the lookup of a system finds what the system lists, or else it is refused: the
command of an extension may exist without the extension, and asking it for an object is then
refused. -/
theorem candidates_listed_or_refused (h : w.Hosts scope) (object : String)
    (system : ObjectSystem) :
    (∃ listed, w.Lists (.known system) listed ∧
      ∀ typed, (Lookup.candidates scope object typed system).outcome w.replies =
        .ok ((listed typed).filter (Text.beginsWith typed))) ∨
    ∃ r, ∀ typed, (Lookup.candidates scope object typed system).outcome w.replies =
      .error (.rejected r) := by
  cases system with
  | ensemble => exact .inl ⟨_, .inr rfl, fun _ => rfl⟩
  | oo => exact .inl ⟨_, .inl ⟨object, rfl⟩, outcome_ooMethods h object⟩
  | snit => exact .inl ⟨_, .inr rfl, fun _ => rfl⟩
  | xotcl => exact .inl ⟨_, .inl ⟨object, rfl⟩, outcome_xotclMethods h object⟩
  | nsf =>
      have hloaded : (Lookup.nsfLoaded scope).outcome w.replies =
          .ok !(w.commands.filter (Glob.admits "::nsf::object::exists")).isEmpty := by
        rw [Lookup.nsfLoaded, outcome_query_bind (replies_commands h _), outcome_pure]
      cases hshown : !(w.commands.filter (Glob.admits "::nsf::object::exists")).isEmpty with
      | false =>
          rw [hshown] at hloaded
          refine .inl ⟨_, .inr rfl, fun typed => ?_⟩
          rw [Lookup.candidates, Lookup.nsfMethods, outcome_bind_ok hloaded]
          rfl
      | true =>
          rw [hshown] at hloaded
          cases hnsf : w.nsf with
          | some objects =>
              exact .inl ⟨_, .inl ⟨object, rfl⟩, outcome_nsfMethods_of_loaded h hnsf hloaded object⟩
          | none =>
              have hrefused : ∃ r, w.replies.to scope .flag ["::nsf::object::exists", object] =
                  .error (.rejected r) := by
                rw [replies_to h]
                exact ⟨_, by simp only [answer, coreAnswer?, extensionAnswer?, hnsf]; rfl⟩
              obtain ⟨r, hr⟩ := hrefused
              refine .inr ⟨r, fun typed => ?_⟩
              rw [Lookup.candidates, Lookup.nsfMethods, outcome_bind_ok hloaded]
              exact outcome_bind_error ((outcome_query w.replies scope _ _).trans hr) _

/-- The same of the methods of a receiver: which object it is, does not depend on what is typed. -/
theorem methods_listed_or_refused (h : w.Hosts scope) (token : String) (tag : ObjectSystem.Tag) :
    (∃ listed, w.Lists tag listed ∧
      ∀ typed, (Lookup.methods scope typed tag token).outcome w.replies =
        .ok (Offer.ofCandidates typed ((listed typed).filter (Text.beginsWith typed)))) ∨
    ∃ r, ∀ typed, (Lookup.methods scope typed tag token).outcome w.replies =
      .error (.rejected r) := by
  rcases okOrRefused_objectName h (Receiver.ofToken token) with ⟨object, hobject, -⟩ | ⟨r, hr⟩
  · simp only [Lookup.methods, outcome_bind_ok hobject]
    cases tag with
    | unknown name => exact .inl ⟨_, .inr rfl, fun _ => rfl⟩
    | known system =>
        rcases candidates_listed_or_refused h object system with ⟨listed, hlists, hok⟩ | ⟨r, hr⟩
        · refine .inl ⟨listed, hlists, fun typed => ?_⟩
          rw [Lookup.methodsOf, outcome_bind_ok (hok typed), outcome_pure]
        · exact .inr ⟨r, fun typed => outcome_bind_error (hr typed) _⟩
  · exact .inr ⟨r, fun typed => outcome_bind_error hr _⟩

theorem extends_methods (h : w.Hosts scope) (typed token : String) (tag : ObjectSystem.Tag) :
    OkOrRefused (Offer.Extends typed)
      ((Lookup.methods scope typed tag token).outcome w.replies) := by
  rcases methods_listed_or_refused h token tag with ⟨listed, -, hok⟩ | ⟨r, hr⟩
  · exact .inl ⟨_, hok typed, (Offer.reports_ofCandidates typed (listed typed)).extends⟩
  · exact .inr ⟨r, hr typed⟩

theorem extends_firstMethods (h : w.Hosts scope) (typed token : String)
    (tags : List ObjectSystem.Tag) :
    OkOrRefused (Offer.Extends typed)
      ((Lookup.firstMethods scope typed token tags).outcome w.replies) := by
  induction tags with
  | nil => exact okOrRefused_pure (Offer.extends_nothing typed)
  | cons tag rest ih =>
      refine okOrRefused_bind (extends_methods h typed token tag) ?_
      intro offer hoffer
      split
      · exact ih
      · exact okOrRefused_pure hoffer

end World

end TabCompletion
