import TabCompletion.Proofs.Lookup.Dereferencing
import TabCompletion.Proofs.World.Elements

/-! # Completing to the stem

On the way from what was typed to the stem of the names found, nothing is decided: whatever is typed
there finds the same names again. So completing to the stem leaves the offer as it is. -/

namespace TabCompletion

open Dialogue Text

/-! ## Names on the way -/

variable {typed longer : String} {names : List String}

/-- Where all names that go on from one text go on from a longer one too, both texts find the same
names. -/
theorem filter_beginsWith_eq (hlonger : typed.toList <+: longer.toList)
    (h : ∀ name ∈ names.filter (beginsWith typed), longer.toList <+: name.toList) :
    names.filter (beginsWith longer) = names.filter (beginsWith typed) := by
  apply List.filter_congr
  intro name hname
  rw [Bool.eq_iff_iff, beginsWith_iff, beginsWith_iff]
  constructor
  · exact hlonger.trans
  · intro htyped
    exact h name (List.mem_filter.mpr ⟨hname, beginsWith_iff.mpr htyped⟩)

/-- The stem of names does not depend on how much of it was typed. -/
theorem sharedStem_eq_of_all (hne : names ≠ [])
    (htyped : ∀ name ∈ names, typed.toList <+: name.toList)
    (hlonger : ∀ name ∈ names, longer.toList <+: name.toList) :
    sharedStem names longer = sharedStem names typed :=
  (isStem_sharedStem_of_all hne hlonger).eq (isStem_sharedStem_of_all hne htyped)

theorem Offer.ofCandidates_eq_of_all (hne : names ≠ [])
    (htyped : ∀ name ∈ names, typed.toList <+: name.toList)
    (hlonger : ∀ name ∈ names, longer.toList <+: name.toList) :
    ofCandidates longer names = ofCandidates typed names := by
  have hstem := sharedStem_eq_of_all hne htyped hlonger
  match names with
  | [] => exact absurd rfl hne
  | [only] => rfl
  | first :: second :: rest => simp only [ofCandidates, hstem]

theorem Lookup.offerElements_eq_of_all {array element further : String} (hne : names ≠ [])
    (helement : ∀ name ∈ names, element.toList <+: name.toList)
    (hfurther : ∀ name ∈ names, further.toList <+: name.toList) :
    offerElements longer array further names = offerElements typed array element names := by
  have hstem := sharedStem_eq_of_all hne helement hfurther
  match names with
  | [] => exact absurd rfl hne
  | [only] => rfl
  | first :: second :: rest => simp only [offerElements, hstem]

/-- What is typed between a text and the stem of the names that it finds makes the same offer. -/
theorem Offer.ofCandidates_between (hlonger : typed.toList <+: longer.toList)
    (hstem : longer.toList <+:
      (ofCandidates typed (names.filter (beginsWith typed))).common.toList) :
    ofCandidates longer (names.filter (beginsWith longer)) =
      ofCandidates typed (names.filter (beginsWith typed)) := by
  by_cases hnone : names.filter (beginsWith typed) = []
  · -- the stem is what was typed, so there is nothing in between
    have hsame : typed = longer := by
      rw [hnone] at hstem
      exact String.toList_injective (hlonger.eq_of_length_le hstem.length_le)
    rw [hsame]
  · have htyped : ∀ name ∈ names.filter (beginsWith typed), typed.toList <+: name.toList := by
      intro name hname
      exact prefix_of_mem_filter hname
    have hall : ∀ name ∈ names.filter (beginsWith typed), longer.toList <+: name.toList := by
      intro name hname
      exact hstem.trans ((isStem_ofCandidates hnone htyped).begins name hname)
    rw [filter_beginsWith_eq hlonger hall]
    exact ofCandidates_eq_of_all hnone htyped hall

/-! ## Lookups -/

namespace World

variable {w : World} {scope : Scope}

/-- From one text on, up to another, a lookup comes to one offer. -/
def Steady (w : World) (lookup : String → Dialogue Offer) (typed stem : String) (offer : Offer) :
    Prop :=
  ∀ longer : String, typed.toList <+: longer.toList → longer.toList <+: stem.toList →
    ((lookup longer).run host w).outcome = .ok offer

/-- A lookup that finds what goes on from the typed text among the same names, whatever is typed, is
steady up to the stem that it offers. -/
theorem exists_steady {lookup : String → Dialogue Offer}
    (h : ∀ typed, ((lookup typed).run host w).outcome =
      .ok (Offer.ofCandidates typed (names.filter (beginsWith typed)))) (typed : String) :
    ∃ offer, ((lookup typed).run host w).outcome = .ok offer ∧
      typed.toList <+: offer.common.toList ∧ w.Steady lookup typed offer.common offer := by
  refine ⟨_, h typed, Offer.Reports.typed_prefix (Offer.reports_ofCandidates typed names), ?_⟩
  intro longer hlonger hstem
  rw [h longer, Offer.ofCandidates_between hlonger hstem]

theorem outcome_run_methods {object : String} (hobject : object.toList.head? ≠ some '$')
    {system : ObjectSystem} {listed : List String}
    (h : ∀ typed, (Lookup.candidates scope object typed system).outcome w.replies =
      .ok (listed.filter (beginsWith typed))) (typed : String) :
    ((Lookup.methods scope typed (.known system) object).run host w).outcome =
      .ok (Offer.ofCandidates typed (listed.filter (beginsWith typed))) := by
  rw [run_outcome (Lookup.relays_methods scope typed _ object).asks, Lookup.methods_named hobject,
    Lookup.methodsOf, outcome_bind_ok (h typed), outcome_pure]

/-! ## Elements of arrays -/

/-- What is typed between two beginnings of elements is the beginning of an element. -/
theorem exists_element_between {array element stem : String}
    (hlonger : (array ++ "(" ++ element).toList <+: longer.toList)
    (hstem : longer.toList <+: (array ++ "(" ++ stem).toList) :
    ∃ further : String, longer = array ++ "(" ++ further ∧ element.toList <+: further.toList ∧
      further.toList <+: stem.toList := by
  obtain ⟨rest, hrest⟩ := hlonger
  have hsplit : longer = array ++ "(" ++ String.ofList (element.toList ++ rest) := by
    apply String.toList_injective
    simp [← hrest]
  refine ⟨_, hsplit, by simp, ?_⟩
  rw [hsplit] at hstem
  simpa [List.prefix_append_right_inj] using hstem

theorem outcome_run_vars_element (h : w.Hosts scope) {array : String}
    (harray : '(' ∉ array.toList) (element : String) :
    ((Lookup.vars scope (array ++ "(" ++ element)).run host w).outcome =
      .ok (Lookup.offerElements (array ++ "(" ++ element) array element
        ((w.elementsOf array).filter (beginsWith element))) := by
  have hvars : Lookup.vars scope (array ++ "(" ++ element) =
      Lookup.elements scope (array ++ "(" ++ element) array element := by
    rw [Lookup.vars, Lookup.arrayElement?_append harray]
  rw [hvars]
  exact (run_lookup_elements h _ array element).1

theorem exists_steady_elements (h : w.Hosts scope) {array element : String}
    (harray : '(' ∉ array.toList)
    (hfound : (w.elementsOf array).filter (beginsWith element) ≠ []) :
    ∃ stem offer, IsStem ((w.elementsOf array).filter (beginsWith element)) stem ∧
      element.toList <+: stem.toList ∧
      ((Lookup.vars scope (array ++ "(" ++ element)).run host w).outcome = .ok offer ∧
      w.Steady (Lookup.vars scope) (array ++ "(" ++ element) (array ++ "(" ++ stem) offer := by
  have helement : ∀ name ∈ (w.elementsOf array).filter (beginsWith element),
      element.toList <+: name.toList := by
    intro name hname
    exact prefix_of_mem_filter hname
  have hstem := isStem_sharedStem_of_all hfound helement
  refine ⟨_, _, hstem, hstem.longest element helement, outcome_run_vars_element h harray element, ?_⟩
  intro longer hlonger hshorter
  obtain ⟨further, rfl, hfurther, hbegins⟩ := exists_element_between hlonger hshorter
  have hall : ∀ name ∈ (w.elementsOf array).filter (beginsWith element),
      further.toList <+: name.toList := by
    intro name hname
    exact hbegins.trans (hstem.begins name hname)
  rw [outcome_run_vars_element h harray further, filter_beginsWith_eq hfurther hall,
    Lookup.offerElements_eq_of_all hfound helement hall]

/-! ## Fixed points -/

/-- Where the scope exists, completing to the stem changes nothing: a lookup of commands, or of the
methods that the built-in system or XOTcl names for an object, comes to one offer from the typed text
on, up to the stem of the offer. After an opening parenthesis, so does a lookup of variables up to
the stem of the elements found, if there are any. -/
theorem offer_steady_up_to_stem (w : World) (scope : Scope) (hscope : w.Hosts scope) :
    (∀ typed, ∃ offer, ((Lookup.commands scope typed).run host w).outcome = .ok offer ∧
      typed.toList <+: offer.common.toList ∧
      w.Steady (Lookup.commands scope) typed offer.common offer) ∧
    (∀ system ∈ [ObjectSystem.oo, .xotcl], ∀ object typed : String,
      object.toList.head? ≠ some '$' →
      let lookup := fun typed => Lookup.methods scope typed (.known system) object
      ∃ offer, ((lookup typed).run host w).outcome = .ok offer ∧
        typed.toList <+: offer.common.toList ∧ w.Steady lookup typed offer.common offer) ∧
    ∀ array element : String, '(' ∉ array.toList →
      let found := (w.elementsOf array).filter (beginsWith element)
      let typed := array ++ "(" ++ element
      found ≠ [] → ∃ stem offer, IsStem found stem ∧ element.toList <+: stem.toList ∧
        ((Lookup.vars scope typed).run host w).outcome = .ok offer ∧
        w.Steady (Lookup.vars scope) typed (array ++ "(" ++ stem) offer := by
  refine ⟨?_, ?_, ?_⟩
  · apply exists_steady
    intro typed
    rw [run_outcome (Lookup.relays_commands scope typed).asks]
    exact outcome_commands hscope typed
  · intro system hsystem object typed hobject
    rcases List.mem_pair.mp hsystem with rfl | rfl
    · exact exists_steady (outcome_run_methods hobject (outcome_ooMethods hscope object)) typed
    · exact exists_steady (outcome_run_methods hobject (outcome_xotclMethods hscope object)) typed
  · intro array element harray found typed hfound
    exact exists_steady_elements hscope harray hfound

/-- A world of names that begin each other, patterns among them. -/
def forked : World where
  commands := ["set*", "set*b", "set*", "get"]
  oo := [("o", ["draw", "drag"])]
  arrays := [("A", ["key?", "key", "lock"])]

theorem offer_steady_forked :
    (∃ offer, ((Lookup.commands .main "s").run host forked).outcome = .ok offer ∧
      ((Lookup.commands .main "set*").run host forked).outcome = .ok offer) ∧
    (∃ offer, ((Lookup.methods .main "" (.known .oo) "o").run host forked).outcome = .ok offer ∧
      ((Lookup.methods .main "dr" (.known .oo) "o").run host forked).outcome = .ok offer) ∧
    ∃ offer, ((Lookup.vars .main "A(k").run host forked).outcome = .ok offer ∧
      ((Lookup.vars .main "A(key").run host forked).outcome = .ok offer := by
  have hmain : forked.Hosts .main := by decide
  obtain ⟨hcommands, hmethods, helements⟩ := offer_steady_up_to_stem forked .main hmain
  refine ⟨?_, ?_, ?_⟩
  · obtain ⟨offer, houtcome, -, hsteady⟩ := hcommands "s"
    have hstem : ((Lookup.commands .main "s").run host forked).outcome.map Offer.common =
        .ok "set*" := by rfl
    rw [houtcome] at hstem
    have hcommon : offer.common = "set*" := Except.ok.inj hstem
    exact ⟨offer, houtcome, hsteady "set*" (by decide) (by rw [hcommon])⟩
  · obtain ⟨offer, houtcome, -, hsteady⟩ := hmethods .oo (by decide) "o" "" (by decide)
    have hstem : ((Lookup.methods .main "" (.known .oo) "o").run host forked).outcome.map
        Offer.common = .ok "dra" := by rfl
    rw [houtcome] at hstem
    have hcommon : offer.common = "dra" := Except.ok.inj hstem
    exact ⟨offer, houtcome, hsteady "dr" (by decide) (by rw [hcommon]; decide)⟩
  · obtain ⟨stem, offer, hstem, -, houtcome, hsteady⟩ :=
      helements "A" "k" (by decide) (by decide)
    have hkey : "key".toList <+: stem.toList := hstem.longest "key" (by decide)
    refine ⟨offer, houtcome, hsteady "A(key" (by decide) ?_⟩
    simpa using hkey

end World

end TabCompletion
