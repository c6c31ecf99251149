import TabCompletion.Proofs.Draft.Accepting
import TabCompletion.Proofs.World.Extending

/-! # Typing a name that was offered

In a world whose names can be typed as words, a lookup that offers a name for its beginning offers it
again for the whole name. Of the object systems, the same one is the first to find it. -/

namespace TabCompletion

open Dialogue

namespace World

variable {w : World} {scope : Scope}

/-! ## Names that are words -/

/-- The names of the methods of all objects. -/
def methodNames (w : World) : List String :=
  (w.oo ++ w.nsf.getD [] ++ w.xotcl.getD []).flatMap Prod.snd

/-- Every name can be typed as one word, that of a variable without the parenthesis of an element,
and that of a method without the look of a variable or of an absolute name. -/
structure NamesWords (w : World) : Prop where
  commands : ∀ name ∈ w.commands, Draft.IsWord name
  vars : ∀ name ∈ w.variableNames, Draft.IsWord name ∧ '(' ∉ name.toList
  elements : ∀ entry ∈ w.arrays, ∀ element ∈ entry.2, Draft.IsWord element
  methods : ∀ name ∈ w.methodNames, Draft.IsWord name ∧ name.toList.head? ≠ some '$' ∧
    Text.beginsWith "::" name = false
  namespaces : ∀ ns ∈ w.namespaces, Draft.IsWord ns

theorem beginsWith_trans {start typed name : String}
    (hstart : Text.beginsWith start typed = true) (hname : Text.beginsWith typed name = true) :
    Text.beginsWith start name = true := by
  rw [Text.beginsWith_iff] at *
  exact hstart.trans hname

/-! ## What a system lists -/

/-- What a table holds under a name stands in one of its entries. -/
theorem exists_entry_of_mem {entries : List (String × List String)} {key item : String}
    (h : item ∈ (entries.lookup key).getD []) :
    ∃ items, (key, items) ∈ entries ∧ item ∈ items := by
  cases hlookup : entries.lookup key with
  | none => simp [hlookup] at h
  | some items =>
      rw [hlookup, Option.getD_some] at h
      obtain ⟨before, after, hentries, -⟩ := List.lookup_eq_some_iff.mp hlookup
      exact ⟨items, by simp [hentries], h⟩

/-- What is listed are methods, or, by the one system that dispatches such names, absolute names. -/
theorem mem_methodsListed {object typed name : String} {tag : ObjectSystem.Tag}
    (h : name ∈ w.methodsListed object typed tag) :
    name ∈ w.methodNames ∨
      tag = .known .nsf ∧ Text.beginsWith "::" typed = true ∧ name ∈ w.absoluteNames typed := by
  by_cases hdispatched : Dispatches tag typed
  · rcases methodsListed_of_dispatches hdispatched w object with hlisted | hlisted
    · exact .inr ⟨hdispatched.1, hdispatched.2, hlisted ▸ h⟩
    · simp [hlisted] at h
  · obtain ⟨objects, hsubset, hlisted⟩ := exists_methodsIn_of_not_dispatches hdispatched w object
    rw [hlisted] at h
    obtain ⟨items, hentry, hitem⟩ := exists_entry_of_mem h
    exact .inl (List.mem_flatMap.mpr ⟨(object, items), hsubset hentry, hitem⟩)

/-- What was typed matters only where absolute names are dispatched. -/
theorem methodsListed_eq {object typed name : String} {tag : ObjectSystem.Tag}
    (h : tag = .known .nsf → Text.beginsWith "::" typed = false ∧ Text.beginsWith "::" name = false) :
    w.methodsListed object typed tag = w.methodsListed object name tag := by
  cases tag with
  | unknown unknown => rfl
  | known system =>
      cases system with
      | nsf =>
          obtain ⟨htyped, hname⟩ := h rfl
          simp only [methodsListed, htyped, hname, Bool.false_eq_true, ite_false]
      | ensemble => rfl
      | oo => rfl
      | snit => rfl
      | xotcl => rfl

/-- An absolute name follows itself. -/
theorem mem_absoluteNames_self {typed name : String} (h : name ∈ w.absoluteNames typed) :
    name ∈ w.absoluteNames name := by
  rw [absoluteNames, List.mem_append, List.mem_filter] at h ⊢
  rcases h with hcommand | ⟨hns, hne⟩
  · exact .inl hcommand
  · exact .inr ⟨hns, by simp at hne ⊢; exact hne.1⟩

section

variable {tag : ObjectSystem.Tag} {listed : String → List String} {typed name : String}

theorem Lists.isWord (hlists : w.Lists tag listed) (hnames : w.NamesWords)
    (hlisted : name ∈ listed typed) : Draft.IsWord name := by
  rcases hlists with ⟨object, rfl⟩ | rfl
  · rcases mem_methodsListed hlisted with hmethod | ⟨-, -, habsolute⟩
    · exact (hnames.methods name hmethod).1
    · rw [absoluteNames, List.mem_append, List.mem_filter] at habsolute
      rcases habsolute with hcommand | ⟨hns, -⟩
      · exact hnames.commands name hcommand
      · exact hnames.namespaces name hns
  · simp at hlisted

/-- Absolute names are listed only where they are dispatched. -/
theorem Lists.of_absolute (hlists : w.Lists tag listed) (hnames : w.NamesWords)
    (hlisted : name ∈ listed typed) (habsolute : Text.beginsWith "::" name = true) :
    tag = .known .nsf := by
  rcases hlists with ⟨object, rfl⟩ | rfl
  · rcases mem_methodsListed hlisted with hmethod | ⟨htag, -, -⟩
    · exact absurd habsolute (by simp [(hnames.methods name hmethod).2.2])
    · exact htag
  · simp at hlisted

/-- No listed name that goes on with what was typed looks like a variable. -/
theorem Lists.head_ne (hlists : w.Lists tag listed) (hnames : w.NamesWords)
    (hlisted : name ∈ listed typed) (hbegins : Text.beginsWith typed name = true) :
    name.toList.head? ≠ some '$' := by
  intro hname
  rcases hlists with ⟨object, rfl⟩ | rfl
  · rcases mem_methodsListed hlisted with hmethod | ⟨-, habsolute, -⟩
    · exact (hnames.methods name hmethod).2.1 hname
    · have hcolons := beginsWith_trans habsolute hbegins
      rw [Text.beginsWith_iff] at hcolons
      obtain ⟨rest, hrest⟩ := hcolons
      rw [← hrest] at hname
      simp at hname
  · simp at hlisted

/-- A listed name is listed for itself. -/
theorem Lists.mem_self (hlists : w.Lists tag listed) (hnames : w.NamesWords)
    (hlisted : name ∈ listed typed) (hbegins : Text.beginsWith typed name = true) :
    name ∈ listed name := by
  rcases hlists with ⟨object, rfl⟩ | rfl
  · simp only at hlisted ⊢
    cases habsolute : Text.beginsWith "::" typed with
    | false =>
        have hname : Text.beginsWith "::" name = false := by
          rcases mem_methodsListed hlisted with hmethod | ⟨-, htrue, -⟩
          · exact (hnames.methods name hmethod).2.2
          · rw [habsolute] at htrue
            cases htrue
        rwa [← methodsListed_eq fun _ => ⟨habsolute, hname⟩]
    | true =>
        have hname := beginsWith_trans habsolute hbegins
        rcases mem_methodsListed hlisted with hmethod | ⟨rfl, -, hmem⟩
        · exact absurd hname (by simp [(hnames.methods name hmethod).2.2])
        · rw [methodsListed] at hlisted ⊢
          split at hlisted
          · simp only [hname, ite_true]
            exact mem_absoluteNames_self hmem
          · simp at hlisted
  · simp at hlisted

/-- Where nothing is found for the beginning of a name, nothing is found for the name, unless absolute
names come to be dispatched. -/
theorem Lists.found_eq_nil (hlists : w.Lists tag listed)
    (hbegins : Text.beginsWith typed name = true)
    (hname : tag = .known .nsf → Text.beginsWith "::" name = false)
    (hnone : (listed typed).filter (Text.beginsWith typed) = []) :
    (listed name).filter (Text.beginsWith name) = [] := by
  have hsame : listed name = listed typed := by
    rcases hlists with ⟨object, rfl⟩ | rfl
    · refine (methodsListed_eq fun htag => ⟨?_, hname htag⟩).symm
      rw [Bool.eq_false_iff]
      intro htyped
      exact absurd (beginsWith_trans htyped hbegins) (by simp [hname htag])
    · rfl
  rw [hsame]
  rw [List.filter_eq_nil_iff] at hnone ⊢
  intro other hother hlonger
  exact hnone other hother (beginsWith_trans hbegins hlonger)

end

/-! ## Commands and variables -/

/-- A name that a lookup offers after its beginning may take the place of the word, and the lookup
offers it again after the whole name. -/
structure Retyped (lookup : String → Dialogue Offer) (w : World) (name : String) : Prop where
  isWord : Draft.IsWord name
  again : ∃ offer, (lookup name).outcome w.replies = .ok offer ∧ name ∈ offer.names

theorem mem_names_iff {listed : List String} {typed name : String} :
    name ∈ (Offer.ofCandidates typed (listed.filter (Text.beginsWith typed))).names ↔
      name ∈ listed ∧ Text.beginsWith typed name = true := by
  rw [(Offer.reports_ofCandidates typed listed).mem_iff, Text.beginsWith_iff]

theorem beginsWith_self (name : String) : Text.beginsWith name name = true :=
  Text.beginsWith_iff.mpr List.prefix_rfl

theorem retyped_commands (h : w.Hosts scope) (hnames : w.NamesWords) {typed name : String}
    {offer : Offer} (hoffer : (Lookup.commands scope typed).outcome w.replies = .ok offer)
    (hname : name ∈ offer.names) : Retyped (Lookup.commands scope) w name := by
  rw [outcome_commands h, Except.ok.injEq] at hoffer
  subst hoffer
  obtain ⟨hlisted, -⟩ := mem_names_iff.mp hname
  exact ⟨hnames.commands name hlisted, _, outcome_commands h name,
    mem_names_iff.mpr ⟨hlisted, beginsWith_self name⟩⟩

/-- A name that belongs to an element of an array. -/
def IsElement (w : World) (name : String) : Prop :=
  ∃ entry ∈ w.arrays, ∃ element ∈ entry.2, name = Lookup.elementName entry.1 element

/-- An element may take the place of the word as well, but is not found again: what follows the
parenthesis is then closed, and no beginning of an element. -/
theorem retyped_vars (h : w.Hosts scope) (hnames : w.NamesWords) {typed name : String}
    {offer : Offer} (hoffer : (Lookup.vars scope typed).outcome w.replies = .ok offer)
    (htyped : Draft.IsWord typed) (hname : name ∈ offer.names) :
    Draft.IsWord name ∧ (¬ w.IsElement name → Retyped (Lookup.vars scope) w name) := by
  cases helement : Lookup.arrayElement? typed with
  | some split =>
      obtain ⟨array, element⟩ := split
      rw [Lookup.vars, helement] at hoffer
      simp only [Lookup.elements, outcome_query_bind (replies_elements h _ _)] at hoffer
      cases hoffer
      obtain ⟨only, honly, rfl⟩ := Lookup.mem_offerElements hname
      obtain ⟨items, hentry, hitem⟩ := exists_entry_of_mem (List.mem_of_mem_filter honly)
      refine ⟨?_, fun hnot => absurd ⟨_, hentry, only, hitem, rfl⟩ hnot⟩
      have hsplit := Lookup.toList_of_arrayElement? helement
      have harray : ∀ c ∈ array.toList, Draft.isWordChar c = true := by
        intro c hc
        exact htyped c (by simp [hsplit, hc])
      simp only [Draft.IsWord, Lookup.elementName, String.toList_append, List.forall_mem_append]
      exact ⟨⟨⟨harray, List.all_eq_true.mp rfl⟩, hnames.elements _ hentry only hitem⟩, List.all_eq_true.mp rfl⟩
  | none =>
      rw [Lookup.vars, helement] at hoffer
      simp only at hoffer
      rw [outcome_query_bind (replies_vars h _), outcome_pure, Glob.filter_admits_startingWith,
        Except.ok.injEq] at hoffer
      subst hoffer
      obtain ⟨hlisted, -⟩ := mem_names_iff.mp hname
      obtain ⟨hword, hopening⟩ := hnames.vars name hlisted
      refine ⟨hword, fun _ => ⟨hword, _, outcome_vars h hopening, ?_⟩⟩
      exact mem_names_iff.mpr ⟨hlisted, beginsWith_self name⟩

/-! ## Methods -/

section

variable {typed token name : String} {tag : ObjectSystem.Tag} {offer : Offer}

/-- What a lookup that was not refused offers are the names that a system lists, and so it is
whatever else is typed. -/
theorem exists_lists (h : w.Hosts scope)
    (hoffer : (Lookup.methods scope typed tag token).outcome w.replies = .ok offer) :
    ∃ listed, w.Lists tag listed ∧
      offer = Offer.ofCandidates typed ((listed typed).filter (Text.beginsWith typed)) ∧
      ∀ other, (Lookup.methods scope other tag token).outcome w.replies =
        .ok (Offer.ofCandidates other ((listed other).filter (Text.beginsWith other))) := by
  rcases methods_listed_or_refused h token tag with ⟨listed, hlists, hok⟩ | ⟨r, hr⟩
  · rw [hok typed, Except.ok.injEq] at hoffer
    exact ⟨listed, hlists, hoffer.symm, hok⟩
  · rw [hr typed] at hoffer
    cases hoffer

theorem retyped_methods (h : w.Hosts scope) (hnames : w.NamesWords)
    (hoffer : (Lookup.methods scope typed tag token).outcome w.replies = .ok offer)
    (hname : name ∈ offer.names) :
    Retyped (fun typed => Lookup.methods scope typed tag token) w name ∧
      name.toList.head? ≠ some '$' ∧
      (Text.beginsWith "::" name = true → tag = .known .nsf) := by
  obtain ⟨listed, hlists, rfl, hok⟩ := exists_lists h hoffer
  obtain ⟨hlisted, hbegins⟩ := mem_names_iff.mp hname
  have hself := hlists.mem_self hnames hlisted hbegins
  refine ⟨⟨hlists.isWord hnames hlisted, _, hok name, ?_⟩,
    hlists.head_ne hnames hlisted hbegins, hlists.of_absolute hnames hlisted⟩
  exact mem_names_iff.mpr ⟨hself, beginsWith_self name⟩

/-- A system that found nothing for the beginning of a name finds nothing for the name. -/
theorem methods_found_none (h : w.Hosts scope) (hbegins : Text.beginsWith typed name = true)
    (habsolute : tag = .known .nsf → Text.beginsWith "::" name = false)
    (hoffer : (Lookup.methods scope typed tag token).outcome w.replies = .ok offer)
    (hnone : offer.names = []) :
    ∃ again, (Lookup.methods scope name tag token).outcome w.replies = .ok again ∧
      again.names = [] := by
  obtain ⟨listed, hlists, rfl, hok⟩ := exists_lists h hoffer
  have hfound : (listed typed).filter (Text.beginsWith typed) = [] := by
    rw [List.eq_nil_iff_forall_not_mem] at hnone ⊢
    intro other hother
    exact hnone other (mem_names_iff.mpr (List.mem_filter.mp hother))
  refine ⟨_, hok name, ?_⟩
  rw [hlists.found_eq_nil hbegins habsolute hfound]
  rfl

/-- What is offered first is what one of the systems offers. -/
theorem exists_tag_of_firstMethods {tags : List ObjectSystem.Tag}
    (hoffer : (Lookup.firstMethods scope typed token tags).outcome w.replies = .ok offer)
    (hname : name ∈ offer.names) :
    ∃ tag, (Lookup.methods scope typed tag token).outcome w.replies = .ok offer := by
  induction tags with
  | nil =>
      cases hoffer
      simp [Offer.nothing] at hname
  | cons tag rest ih =>
      rw [Lookup.firstMethods] at hoffer
      obtain ⟨first, hfirst, hrest⟩ := exists_of_outcome_bind hoffer
      split at hrest
      · exact ih hrest
      · cases hrest
        exact ⟨tag, hfirst⟩

/-- The system that was the first to find a name for its beginning is the first to find it for the
whole name. -/
theorem retyped_firstMethods (h : w.Hosts scope) (hnames : w.NamesWords)
    {tags : List ObjectSystem.Tag}
    (hoffer : (Lookup.firstMethods scope typed token tags).outcome w.replies = .ok offer)
    (hname : name ∈ offer.names) :
    Retyped (fun typed => Lookup.firstMethods scope typed token tags) w name ∧
      name.toList.head? ≠ some '$' := by
  obtain ⟨winner, hwinner⟩ := exists_tag_of_firstMethods hoffer hname
  obtain ⟨hretyped, hhead, habsolute⟩ := retyped_methods h hnames hwinner hname
  refine ⟨⟨hretyped.isWord, ?_⟩, hhead⟩
  have hbegins : Text.beginsWith typed name = true := by
    obtain ⟨listed, -, rfl, -⟩ := exists_lists h hwinner
    exact (mem_names_iff.mp hname).2
  induction tags with
  | nil =>
      cases hoffer
      simp [Offer.nothing] at hname
  | cons tag rest ih =>
      simp only [Lookup.firstMethods] at hoffer ⊢
      obtain ⟨first, hfirst, hrest⟩ := exists_of_outcome_bind hoffer
      split at hrest
      · next hempty =>
        rw [List.isEmpty_iff] at hempty
        -- the winner is another system, so this one does not come to dispatch absolute names
        have hother : tag = .known .nsf → Text.beginsWith "::" name = false := by
          rintro rfl
          rw [Bool.eq_false_iff]
          intro htrue
          obtain rfl := habsolute htrue
          rw [hwinner, Except.ok.injEq] at hfirst
          simp [hfirst, hempty] at hname
        obtain ⟨again, hagain, hnone⟩ := methods_found_none h hbegins hother hfirst hempty
        rw [outcome_bind_ok hagain, hnone]
        exact ih hrest
      · cases hrest
        obtain ⟨again, hagain, hmem⟩ := (retyped_methods h hnames hfirst hname).1.again
        rw [outcome_bind_ok hagain]
        have hne : again.names.isEmpty = false := by
          rw [List.isEmpty_eq_false_iff]
          exact List.ne_nil_of_mem hmem
        rw [hne]
        exact ⟨again, rfl, hmem⟩

end

end World

end TabCompletion
