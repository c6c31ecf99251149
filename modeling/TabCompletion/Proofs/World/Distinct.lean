import Mathlib.Data.List.Nodup
import TabCompletion.Proofs.World.Elements
import TabCompletion.Proofs.World.Retyping

/-! # Names that are offered once

A name that an interpreter lists once is offered once, with one exception: where absolute names are
dispatched, commands and namespaces are listed one after the other, and the name of an object that
owns a namespace stands in both lists. -/

namespace TabCompletion

open Dialogue Text

/-! ## Strict order -/

/-- Names in ascending order are in strict order exactly if none of them occurs twice. -/
theorem pairwise_lt_ascending_iff (names : List String) :
    (ascending names).Pairwise (· < ·) ↔ names.Nodup := by
  rw [← (ascending_perm names).nodup_iff]
  constructor
  · intro hlt
    apply hlt.imp
    rintro a b hab rfl
    exact String.lt_irrefl a hab
  · intro hnodup
    refine (pairwise_ascending names).imp₂ ?_ hnodup
    intro a b hle hne
    rw [← String.not_le]
    intro hge
    exact hne (String.le_antisymm hle hge)

theorem Offer.pairwise_lt_ofCandidates_iff (typed : String) (candidates : List String) :
    (ofCandidates typed candidates).names.Pairwise (· < ·) ↔ candidates.Nodup := by
  rw [names_ofCandidates]
  exact pairwise_lt_ascending_iff candidates

namespace Lookup

theorem elementName_injective (array : String) : Function.Injective (elementName array) := by
  intro element other h
  have hlist := congrArg String.toList h
  apply String.toList_injective
  simpa [elementName] using hlist

theorem pairwise_lt_offerElements {found : List String} (h : found.Nodup)
    (typed array element : String) :
    (offerElements typed array element found).names.Pairwise (· < ·) := by
  rw [names_offerElements, pairwise_lt_ascending_iff]
  exact h.map (elementName_injective array)

end Lookup

/-! ## Worlds without repetitions -/

namespace World

variable {w : World} {scope : Scope}

/-- No name is listed twice: none of a command, of a namespace or of a variable, be it an array or
not, and within an array none of an element, within an object none of a method. -/
structure NamesDistinct (w : World) : Prop where
  commands : w.commands.Nodup
  namespaces : w.namespaces.Nodup
  vars : w.variableNames.Nodup
  elements : ∀ entry ∈ w.arrays, entry.2.Nodup
  methods : ∀ entry ∈ w.oo ++ w.nsf.getD [] ++ w.xotcl.getD [], entry.2.Nodup

/-- A name that stands both for a command and for a namespace with the qualifiers that were typed. -/
def IsBoth (w : World) (typed name : String) : Prop :=
  name ∈ w.commands ∧ name ∈ w.namespaces ∧ name ≠ Namespace.root ∧
    Namespace.qualifiers name = Namespace.qualifiers typed

/-- A name that is listed twice, since absolute names are dispatched and it stands for both. -/
def Doubled (w : World) (tag : ObjectSystem.Tag) (typed name : String) : Prop :=
  Dispatches tag typed ∧ w.IsBoth typed name

theorem nodup_lookup {entries : List (String × List String)}
    (h : ∀ entry ∈ entries, entry.2.Nodup) (key : String) :
    ((entries.lookup key).getD []).Nodup := by
  cases hlookup : entries.lookup key with
  | none => exact List.nodup_nil
  | some items =>
      obtain ⟨before, after, hentries, -⟩ := List.lookup_eq_some_iff.mp hlookup
      exact h (key, items) (by simp [hentries])

/-! ## What the systems list -/

/-- Commands and namespaces are listed without repetitions unless a name stands for both. -/
theorem nodup_absoluteNames_iff (h : w.NamesDistinct) (typed : String) :
    ((w.absoluteNames typed).filter (beginsWith typed)).Nodup ↔
      ∀ name ∈ (w.absoluteNames typed).filter (beginsWith typed), ¬ w.IsBoth typed name := by
  simp only [absoluteNames, List.filter_append, List.nodup_append]
  constructor
  · rintro ⟨-, -, hdisjoint⟩ name hname ⟨hcommand, hns, hroot, hqualifiers⟩
    have hbegins : beginsWith typed name = true := by
      rw [← List.filter_append] at hname
      exact (List.mem_filter.mp hname).2
    refine hdisjoint name ?_ name ?_ rfl
    · exact List.mem_filter.mpr ⟨hcommand, hbegins⟩
    · exact List.mem_filter.mpr ⟨List.mem_filter.mpr ⟨hns, by simp [hroot, hqualifiers]⟩, hbegins⟩
  · -- neither list repeats a name, so only a name that is in both can be repeated
    intro hnone
    refine ⟨h.commands.filter _, (h.namespaces.filter _).filter _, ?_⟩
    rintro name hname _ hchild rfl
    obtain ⟨hns, hkind⟩ := List.mem_filter.mp (List.mem_filter.mp hchild).1
    obtain ⟨hroot, hqualifiers⟩ : name ≠ Namespace.root ∧
        Namespace.qualifiers name = Namespace.qualifiers typed := by simpa using hkind
    exact hnone name (List.mem_append_left _ hname)
      ⟨(List.mem_filter.mp hname).1, hns, hroot, hqualifiers⟩

theorem nodup_methodsListed (h : w.NamesDistinct) {tag : ObjectSystem.Tag} {typed : String}
    (hother : ¬ Dispatches tag typed) (object : String) :
    (w.methodsListed object typed tag).Nodup := by
  obtain ⟨objects, hsubset, hlisted⟩ := exists_methodsIn_of_not_dispatches hother w object
  rw [hlisted]
  exact nodup_lookup (fun entry hentry => h.methods entry (hsubset hentry)) object

theorem Lists.nodup_iff {tag : ObjectSystem.Tag} {listed : String → List String}
    (hlists : w.Lists tag listed) (h : w.NamesDistinct) (typed : String) :
    ((listed typed).filter (beginsWith typed)).Nodup ↔
      ∀ name ∈ (listed typed).filter (beginsWith typed), ¬ w.Doubled tag typed name := by
  rcases hlists with ⟨object, rfl⟩ | rfl
  · by_cases hdispatched : Dispatches tag typed
    · simp only [Doubled, hdispatched, true_and]
      rcases methodsListed_of_dispatches hdispatched w object with hlisted | hlisted
      · rw [hlisted]
        exact nodup_absoluteNames_iff h typed
      · simp [hlisted]
    · have hnodup := (nodup_methodsListed h hdispatched object).filter (beginsWith typed)
      simp only [hnodup, true_iff]
      rintro name - ⟨hdispatches, -⟩
      exact hdispatched hdispatches
  · simp

/-! ## Lookups -/

variable {typed token : String} {tag : ObjectSystem.Tag} {offer : Offer}

theorem candidates_of_not_hosts (h : ¬ w.Hosts scope) {object : String} {system : ObjectSystem}
    {found : List String}
    (hfound : (Lookup.candidates scope object typed system).outcome w.replies = .ok found) :
    found = [] := by
  cases system with
  | ensemble => exact (Except.ok.inj hfound).symm
  | snit => exact (Except.ok.inj hfound).symm
  | oo =>
      obtain ⟨r, hr⟩ := outcome_of_not_hosts h .flag _ _
      cases hr.symm.trans hfound
  | nsf =>
      obtain ⟨r, hr⟩ : ∃ r, (Lookup.nsfLoaded scope).outcome w.replies = .error (.rejected r) :=
        outcome_of_not_hosts h .names _ _
      cases (outcome_bind_error hr _).symm.trans hfound
  | xotcl =>
      obtain ⟨r, hr⟩ := outcome_of_not_hosts h .flag _ _
      cases hr.symm.trans hfound

/-- In a scope that does not exist, a lookup of methods finds nothing if it is not refused. -/
theorem methods_of_not_hosts (h : ¬ w.Hosts scope)
    (hoffer : (Lookup.methods scope typed tag token).outcome w.replies = .ok offer) :
    offer = Offer.nothing typed := by
  obtain ⟨object, -, hlookup⟩ := exists_of_outcome_bind hoffer
  cases tag with
  | unknown name => exact (Except.ok.inj hlookup).symm
  | known system =>
      obtain ⟨found, hfound, hdone⟩ := exists_of_outcome_bind hlookup
      obtain rfl := candidates_of_not_hosts h hfound
      exact (Except.ok.inj hdone).symm

/-- What a lookup of methods offers if it is not refused are names that a system lists. -/
theorem exists_lists_of_outcome
    (hoffer : (Lookup.methods scope typed tag token).outcome w.replies = .ok offer) :
    ∃ listed, w.Lists tag listed ∧
      offer = Offer.ofCandidates typed ((listed typed).filter (beginsWith typed)) := by
  by_cases h : w.Hosts scope
  · obtain ⟨listed, hlists, hlisted, -⟩ := exists_lists h hoffer
    exact ⟨listed, hlists, hlisted⟩
  · exact ⟨_, .inr rfl, methods_of_not_hosts h hoffer⟩

/-- The methods offered are in strict order unless one of them is listed twice. -/
theorem pairwise_lt_methods_iff (h : w.NamesDistinct)
    (hoffer : (Lookup.methods scope typed tag token).outcome w.replies = .ok offer) :
    offer.names.Pairwise (· < ·) ↔ ∀ name ∈ offer.names, ¬ w.Doubled tag typed name := by
  obtain ⟨listed, hlists, rfl⟩ := exists_lists_of_outcome hoffer
  rw [Offer.pairwise_lt_ofCandidates_iff, hlists.nodup_iff h, Offer.names_ofCandidates]
  simp only [(ascending_perm _).mem_iff]

theorem pairwise_lt_commands (h : w.NamesDistinct)
    (hoffer : (Lookup.commands scope typed).outcome w.replies = .ok offer) :
    offer.names.Pairwise (· < ·) := by
  by_cases hscope : w.Hosts scope
  · rw [outcome_commands hscope, Except.ok.injEq] at hoffer
    subst hoffer
    rw [Offer.pairwise_lt_ofCandidates_iff]
    exact h.commands.filter _
  · obtain ⟨r, hr⟩ := outcome_of_not_hosts hscope .names _ _
    cases hr.symm.trans hoffer

theorem pairwise_lt_vars (h : w.NamesDistinct)
    (hoffer : (Lookup.vars scope typed).outcome w.replies = .ok offer) :
    offer.names.Pairwise (· < ·) := by
  by_cases hscope : w.Hosts scope
  · unfold Lookup.vars at hoffer
    split at hoffer
    · next array element _ =>
      rw [Lookup.elements, outcome_query_bind (replies_elements hscope _ _)] at hoffer
      obtain rfl := Except.ok.inj hoffer
      exact Lookup.pairwise_lt_offerElements ((nodup_lookup h.elements array).filter _) _ _ _
    · rw [outcome_query_bind (replies_vars hscope _)] at hoffer
      obtain rfl := Except.ok.inj hoffer
      rw [Offer.pairwise_lt_ofCandidates_iff]
      exact h.vars.filter _
  · obtain ⟨r, hr⟩ := outcome_vars_of_not_hosts hscope typed
    cases hr.symm.trans hoffer

/-- Of several systems, the one that dispatches absolute names has to be the first that finds
something before a name is listed twice. -/
theorem pairwise_lt_firstMethods_iff (h : w.NamesDistinct) {tags : List ObjectSystem.Tag}
    (hoffer : (Lookup.firstMethods scope typed token tags).outcome w.replies = .ok offer) :
    offer.names.Pairwise (· < ·) ↔
      ¬ ((Lookup.methods scope typed (.known .nsf) token).outcome w.replies = .ok offer ∧
        ∃ name ∈ offer.names, w.Doubled (.known .nsf) typed name) := by
  constructor
  · rintro hlt ⟨hdispatching, name, hname, hdoubled⟩
    exact (pairwise_lt_methods_iff h hdispatching).mp hlt name hname hdoubled
  · intro hnot
    by_contra hrepeats
    -- a repetition needs a name, so one of the systems has found something
    have hne : offer.names ≠ [] := by
      intro hnone
      exact hrepeats (hnone ▸ .nil)
    obtain ⟨any, hany⟩ := List.exists_mem_of_ne_nil _ hne
    obtain ⟨winner, hwinner⟩ := exists_tag_of_firstMethods hoffer hany
    rw [pairwise_lt_methods_iff h hwinner] at hrepeats
    push Not at hrepeats
    obtain ⟨name, hname, hdoubled⟩ := hrepeats
    obtain rfl := hdoubled.1.1
    exact hnot ⟨hwinner, name, hname, hdoubled⟩

/-- Where no name is listed twice, none is offered twice: what a lookup offers is in strict order.
The one exception are absolute names after the methods of an object that dispatches them, and there
exactly the names that stand for a command as well as for a namespace with the qualifiers that were
typed. -/
theorem offered_distinct_iff_not_doubled (w : World) (hdistinct : w.NamesDistinct) (scope : Scope) :
    (∀ typed offer, ((Lookup.commands scope typed).run host w).outcome = .ok offer →
      offer.names.Pairwise (· < ·)) ∧
    (∀ typed offer, ((Lookup.vars scope typed).run host w).outcome = .ok offer →
      offer.names.Pairwise (· < ·)) ∧
    (∀ tag token typed offer,
      ((Lookup.methods scope typed tag token).run host w).outcome = .ok offer →
      (offer.names.Pairwise (· < ·) ↔ ∀ name ∈ offer.names, ¬ w.Doubled tag typed name)) ∧
    ∀ tags token typed offer,
      ((Lookup.anyMethods scope typed token tags).run host w).outcome = .ok offer →
      (offer.names.Pairwise (· < ·) ↔
        ¬ (((Lookup.methods scope typed (.known .nsf) token).run host w).outcome = .ok offer ∧
          ∃ name ∈ offer.names, w.Doubled (.known .nsf) typed name)) := by
  refine ⟨?_, ?_, ?_, ?_⟩
  · intro typed offer hoffer
    rw [run_outcome (Lookup.relays_commands scope typed).asks] at hoffer
    exact pairwise_lt_commands hdistinct hoffer
  · intro typed offer hoffer
    rw [run_outcome (Lookup.relays_vars scope typed).asks] at hoffer
    exact pairwise_lt_vars hdistinct hoffer
  · intro tag token typed offer hoffer
    rw [run_outcome (Lookup.relays_methods scope typed tag token).asks] at hoffer
    exact pairwise_lt_methods_iff hdistinct hoffer
  · intro tags token typed offer hoffer
    have hasks := (Lookup.consults_firstMethods scope typed token
      (ObjectSystem.orUsual tags)).relays_covers.asks
    rw [run_outcome (Lookup.relays_methods scope typed _ token).asks]
    exact pairwise_lt_firstMethods_iff hdistinct ((run_outcome hasks w).symm.trans hoffer)

/-- A world with an object that owns a namespace. -/
def owning : World where
  commands := ["::obj", "::open", "::nsf::object::exists"]
  nsf := some [("::obj", ["reset", "run"])]
  namespaces := [Namespace.root, "::obj"]

theorem namesDistinct_owning : owning.NamesDistinct :=
  ⟨by decide, by decide, by decide, by decide, by decide⟩

/-- After the beginning of its name, an object that owns a namespace is offered as a command and as
a namespace. -/
theorem outcome_run_methods_owning :
    ((Lookup.methods .main "::ob" (.known .nsf) "::obj").run host owning).outcome =
      .ok (Offer.ofCandidates "::ob" ["::obj", "::obj"]) := by
  rfl

theorem offered_distinct_owning :
    (∃ offer, ((Lookup.methods .main "r" (.known .nsf) "::obj").run host owning).outcome =
      .ok offer ∧ offer.names.Pairwise (· < ·)) ∧
    ∃ offer, ((Lookup.methods .main "::ob" (.known .nsf) "::obj").run host owning).outcome =
      .ok offer ∧ ¬ offer.names.Pairwise (· < ·) := by
  obtain ⟨-, -, hmethods, -⟩ := offered_distinct_iff_not_doubled owning namesDistinct_owning .main
  have hrelative : ((Lookup.methods .main "r" (.known .nsf) "::obj").run host owning).outcome =
      .ok (Offer.ofCandidates "r" ["reset", "run"]) := by rfl
  refine ⟨⟨_, hrelative, ?_⟩, ⟨_, outcome_run_methods_owning, ?_⟩⟩
  · rw [hmethods _ _ _ _ hrelative]
    rintro name - ⟨⟨-, habsolute⟩, -⟩
    exact absurd habsolute (by decide)
  · rw [hmethods _ _ _ _ outcome_run_methods_owning]
    intro honce
    refine honce "::obj" ?_ ⟨⟨rfl, by decide⟩, by decide, by decide, by decide, by decide⟩
    rw [Offer.names_ofCandidates, (ascending_perm _).mem_iff]
    simp

/-- It is not so that no name is ever offered twice. -/
theorem not_forall_pairwise_lt :
    ¬ ∀ (w : World) (scope : Scope), w.NamesDistinct → ∀ tag token typed offer,
      ((Lookup.methods scope typed tag token).run host w).outcome = .ok offer →
      offer.names.Pairwise (· < ·) := by
  intro h
  have hlt := h owning .main namesDistinct_owning _ _ _ _ outcome_run_methods_owning
  rw [Offer.pairwise_lt_ofCandidates_iff] at hlt
  exact absurd hlt (by decide)

end World

end TabCompletion
