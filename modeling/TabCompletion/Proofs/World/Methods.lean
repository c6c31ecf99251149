import TabCompletion.Proofs.Namespace.Qualifiers
import TabCompletion.Proofs.World.Names

/-! # Methods of the objects of a world

Each system's lookup finds those methods that the system lists for an object, and finds none where
the object is not one of its own. -/

namespace TabCompletion.World

open Dialogue

variable {w : World} {scope : Scope}

/-! ## What the systems list -/

/-- The methods that a table of objects lists for an object; none if it is not in the table. -/
def methodsIn (objects : Objects) (object : String) : List String :=
  (objects.lookup object).getD []

/-- The absolute names that may follow a typed one: those of all commands, and of the namespaces
with the same qualifiers. -/
def absoluteNames (w : World) (typed : String) : List String :=
  w.commands ++ w.namespaces.filter fun ns =>
    ns ≠ Namespace.root && Namespace.qualifiers ns = Namespace.qualifiers typed

/-- What a system lists for an object, given how the name of the method begins. -/
def methodsListed (w : World) (object typed : String) : ObjectSystem.Tag → List String
  | .known .oo => methodsIn w.oo object
  | .known .nsf =>
    match (w.nsf.getD []).lookup object with
    | some methods => if Text.beginsWith "::" typed then w.absoluteNames typed else methods
    | none => []
  | .known .xotcl => methodsIn (w.xotcl.getD []) object
  | .known .ensemble => []
  | .known .snit => []
  | .unknown _ => []

/-- Whether absolute names are listed for what is typed: one system dispatches them. -/
def Dispatches (tag : ObjectSystem.Tag) (typed : String) : Prop :=
  tag = .known .nsf ∧ Text.beginsWith "::" typed = true

theorem methodsListed_of_dispatches {tag : ObjectSystem.Tag} {typed : String}
    (h : Dispatches tag typed) (w : World) (object : String) :
    w.methodsListed object typed tag = w.absoluteNames typed ∨
      w.methodsListed object typed tag = [] := by
  obtain ⟨rfl, habsolute⟩ := h
  simp only [methodsListed, habsolute, ite_true]
  cases (w.nsf.getD []).lookup object with
  | some methods => exact .inl rfl
  | none => exact .inr rfl

/-- Where absolute names are not dispatched, what is listed is what one of the tables holds. -/
theorem exists_methodsIn_of_not_dispatches {tag : ObjectSystem.Tag} {typed : String}
    (h : ¬ Dispatches tag typed) (w : World) (object : String) :
    ∃ objects : Objects, objects ⊆ w.oo ++ w.nsf.getD [] ++ w.xotcl.getD [] ∧
      w.methodsListed object typed tag = methodsIn objects object := by
  cases tag with
  | unknown name => exact ⟨[], by simp, rfl⟩
  | known system =>
      cases system with
      | ensemble => exact ⟨[], by simp, rfl⟩
      | snit => exact ⟨[], by simp, rfl⟩
      | oo => exact ⟨w.oo, by simp, rfl⟩
      | xotcl => exact ⟨w.xotcl.getD [], by simp, rfl⟩
      | nsf =>
          have hrelative : Text.beginsWith "::" typed = false := by simpa [Dispatches] using h
          refine ⟨w.nsf.getD [], by simp, ?_⟩
          simp only [methodsListed, methodsIn, hrelative, Bool.false_eq_true, ite_false]
          cases (w.nsf.getD []).lookup object with
          | some methods => rfl
          | none => rfl

/-- The command by which an extension shows exists exactly if the extension is loaded: worlds are
made with the command where the extension is loaded, and no script has made it elsewhere. -/
def ShowsNsf (w : World) : Prop :=
  "::nsf::object::exists" ∈ w.commands ↔ w.nsf.isSome = true

instance (w : World) : Decidable w.ShowsNsf :=
  inferInstanceAs (Decidable (_ ↔ _))

/-! ## Built-in objects -/

theorem outcome_ooMethods (h : w.Hosts scope) (object typed : String) :
    (Lookup.ooMethods scope object typed).outcome w.replies =
      .ok ((methodsIn w.oo object).filter (Text.beginsWith typed)) := by
  have hknown : w.replies.to scope .flag ["::info", "object", "isa", "object", object] =
      .ok (w.oo.lookup object).isSome := replies_core h rfl rfl
  rw [Lookup.ooMethods, outcome_query_bind hknown]
  cases hlookup : w.oo.lookup object with
  | none => simp [methodsIn, hlookup]
  | some methods =>
      have hcore : w.coreAnswer? scope.ns ["::info", "object", "methods", object, "-all"] =
          some (.ok (texts methods)) := by simp only [coreAnswer?, hlookup]
      have hmethods := replies_core h hcore (readAs_texts methods)
      simp only [Option.isSome_some, ite_true, outcome_query_bind hmethods, outcome_pure]
      simp [methodsIn, hlookup]

/-! ## Objects of the extensions -/

theorem outcome_xotclMethods (h : w.Hosts scope) (object typed : String) :
    (Lookup.xotclMethods scope object typed).outcome w.replies =
      .ok ((methodsIn (w.xotcl.getD []) object).filter (Text.beginsWith typed)) := by
  have hloaded : w.replies.to scope .flag ["::info", "exists", "::xotcl::version"] =
      .ok w.xotcl.isSome := replies_core h rfl rfl
  rw [Lookup.xotclMethods, outcome_query_bind hloaded]
  cases hxotcl : w.xotcl with
  | none => simp [methodsIn]
  | some objects =>
      have hanswer : w.extensionAnswer? ["::xotcl::Object", "isobject", object] =
          some (.truth (objects.lookup object).isSome) := by
        simp only [extensionAnswer?, hxotcl, Option.map_some]
      have hknown : w.replies.to scope .flag ["::xotcl::Object", "isobject", object] =
          .ok (objects.lookup object).isSome := replies_extension h rfl hanswer rfl
      simp only [Option.isSome_some, ite_true, outcome_query_bind hknown, Option.getD_some]
      cases hlookup : objects.lookup object with
      | none => simp [methodsIn, hlookup]
      | some methods =>
          let pattern := Glob.startingWith typed
          have hcore : w.coreAnswer? scope.ns [object, "info", "methods", pattern] = none := by
            simp [coreAnswer?]
          have hanswer : w.extensionAnswer? [object, "info", "methods", pattern] =
              some (matching pattern methods) := by
            simp [extensionAnswer?, hxotcl, hlookup]
          have hmethods := replies_extension h hcore hanswer (readAs_texts _)
          simp only [Option.isSome_some, ite_true]
          rw [outcome_query w.replies scope .names, hmethods, Glob.filter_admits_startingWith]
          simp [methodsIn, hlookup]

/-- A namespace counts as a child of the qualifiers that were typed, or of the global namespace if
there are none, exactly if its own qualifiers are the same. -/
theorem childNamespaces_qualifiers (w : World) (typed : String) :
    w.childNamespaces
        (if Namespace.qualifiers typed = "" then Namespace.root else Namespace.qualifiers typed)
        (Glob.startingWith typed) =
      (w.namespaces.filter fun ns =>
        ns ≠ Namespace.root && Namespace.qualifiers ns = Namespace.qualifiers typed).filter
          (Text.beginsWith typed) := by
  rw [childNamespaces, ← Glob.filter_admits_startingWith, List.filter_filter]
  refine List.filter_congr ?_
  intro ns _
  have hroot := Namespace.qualifiers_ne_root ns
  by_cases hempty : Namespace.qualifiers typed = ""
  · have htrimmed : Namespace.trimColons Namespace.root = "" := by decide
    simp [hempty, htrimmed, hroot, Bool.and_comm]
  · simp [hempty, Bool.and_comm]

theorem outcome_nsfAbsolute (h : w.Hosts scope) (typed : String) :
    (Lookup.nsfAbsolute scope typed).outcome w.replies =
      .ok ((w.absoluteNames typed).filter (Text.beginsWith typed)) := by
  rw [Lookup.nsfAbsolute, outcome_query_bind (replies_commands h _),
    outcome_query_bind (replies_children h _ _), outcome_pure, childNamespaces_qualifiers,
    Glob.filter_admits_startingWith, absoluteNames, List.filter_append]

/-- Asking for the extension's own command tells whether the extension is loaded. -/
theorem outcome_nsfLoaded (h : w.Hosts scope) (hshows : w.ShowsNsf) :
    (Lookup.nsfLoaded scope).outcome w.replies = .ok w.nsf.isSome := by
  have hescape : Glob.escape "::nsf::object::exists" = "::nsf::object::exists" := by decide
  rw [Lookup.nsfLoaded, outcome_query_bind (replies_commands h _), outcome_pure, ← hescape]
  have hfound : (w.commands.filter (Glob.admits (Glob.escape "::nsf::object::exists"))).isEmpty =
      !w.nsf.isSome := by
    rw [Bool.eq_iff_iff, List.isEmpty_iff, List.filter_eq_nil_iff]
    simp only [Glob.admits_escape_iff, Bool.not_eq_true']
    constructor
    · intro hnone
      rw [Bool.eq_false_iff]
      intro hloaded
      exact hnone _ (hshows.mpr hloaded) rfl
    · rintro hunloaded name hmem rfl
      exact absurd (hshows.mp hmem) (by simp [hunloaded])
  rw [hfound, Bool.not_not]

theorem outcome_nsfMethods_of_loaded (h : w.Hosts scope) {objects : Objects}
    (hnsf : w.nsf = some objects) (hloaded : (Lookup.nsfLoaded scope).outcome w.replies = .ok true)
    (object typed : String) :
    (Lookup.nsfMethods scope object typed).outcome w.replies =
      .ok ((w.methodsListed object typed (.known .nsf)).filter (Text.beginsWith typed)) := by
  have hanswer : w.extensionAnswer? ["::nsf::object::exists", object] =
      some (.truth (objects.lookup object).isSome) := by
    simp only [extensionAnswer?, hnsf, Option.map_some]
  have hknown : w.replies.to scope .flag ["::nsf::object::exists", object] =
      .ok (objects.lookup object).isSome := replies_extension h rfl hanswer rfl
  rw [Lookup.nsfMethods, outcome_bind_ok hloaded]
  simp only [ite_true, outcome_query_bind hknown]
  cases hlookup : objects.lookup object with
  | none => simp [methodsListed, hnsf, hlookup]
  | some methods =>
      simp only [Option.isSome_some, ite_true, methodsListed, hnsf, Option.getD_some, hlookup]
      split
      · exact outcome_nsfAbsolute h typed
      · let words := [object, "::nsf::methods::object::info::lookupmethods",
          "-callprotection", "public", "-path", "--", Glob.startingWith typed]
        have hcore : w.coreAnswer? scope.ns words = none := by simp [words, coreAnswer?]
        have hfound : w.extensionAnswer? words =
            some (matching (Glob.startingWith typed) methods) := by
          simp [words, extensionAnswer?, hnsf, hlookup]
        have hmethods := replies_extension h hcore hfound (readAs_texts _)
        rw [outcome_query w.replies scope .names, hmethods, Glob.filter_admits_startingWith]

theorem outcome_nsfMethods (h : w.Hosts scope) (hshows : w.ShowsNsf) (object typed : String) :
    (Lookup.nsfMethods scope object typed).outcome w.replies =
      .ok ((w.methodsListed object typed (.known .nsf)).filter (Text.beginsWith typed)) := by
  have hloaded := outcome_nsfLoaded h hshows
  cases hnsf : w.nsf with
  | none =>
      rw [Lookup.nsfMethods, outcome_bind_ok hloaded]
      simp [methodsListed, hnsf]
  | some objects =>
      rw [hnsf] at hloaded
      exact outcome_nsfMethods_of_loaded h hnsf hloaded object typed

/-! ## All systems -/

/-- The lookup of every system finds what the system lists for the object. -/
theorem outcome_methodsOf (h : w.Hosts scope) (hshows : w.ShowsNsf) (object typed : String)
    (tag : ObjectSystem.Tag) :
    (Lookup.methodsOf scope object typed tag).outcome w.replies =
      .ok (Offer.ofCandidates typed
        ((w.methodsListed object typed tag).filter (Text.beginsWith typed))) := by
  cases tag with
  | unknown name => rfl
  | known system =>
      have hfound : (Lookup.candidates scope object typed system).outcome w.replies =
          .ok ((w.methodsListed object typed (.known system)).filter (Text.beginsWith typed)) := by
        cases system with
        | ensemble => rfl
        | oo => exact outcome_ooMethods h object typed
        | snit => rfl
        | nsf => exact outcome_nsfMethods h hshows object typed
        | xotcl => exact outcome_xotclMethods h object typed
      rw [Lookup.methodsOf, outcome_bind_ok hfound, outcome_pure]

/-- A token is the name of an object unless it begins with a dollar sign. -/
theorem ofToken_eq_named {token : String} (h : token.toList.head? ≠ some '$') :
    Receiver.ofToken token = .named token := by
  unfold Receiver.ofToken
  split
  · rename_i name hname
    simp [hname] at h
  · rfl

/-- Looking up the methods of an object by its name never fails where the scope exists, and reports
what the system lists for the object. A system that cannot be asked is not asked. -/
theorem methods_report_listed (w : World) (scope : Scope) (hscope : w.Hosts scope)
    (hshows : w.ShowsNsf) (tag : ObjectSystem.Tag) (object typed : String) (hobject : object.toList.head? ≠ some '$') :
    let run := (Lookup.methods scope typed tag object).run host w
    (∃ offer, run.outcome = .ok offer ∧
      offer.Reports typed (w.methodsListed object typed tag)) ∧
    (tag ∉ ObjectSystem.usual.map .known →
      run.events.filterMap Event.request? = [] ∧ run.state = w) := by
  have hmethods : Lookup.methods scope typed tag object =
      Lookup.methodsOf scope object typed tag := by
    rw [Lookup.methods, ofToken_eq_named hobject]
    rfl
  constructor
  · rw [run_outcome (Lookup.relays_methods scope typed tag object).asks, hmethods]
    exact ⟨_, outcome_methodsOf hscope hshows object typed tag, Offer.reports_ofCandidates _ _⟩
  · intro hunusual
    rw [hmethods]
    cases tag with
    | unknown name => exact ⟨rfl, rfl⟩
    | known system =>
        cases system with
        | ensemble => exact ⟨rfl, rfl⟩
        | snit => exact ⟨rfl, rfl⟩
        | oo => simp [ObjectSystem.usual] at hunusual
        | nsf => simp [ObjectSystem.usual] at hunusual
        | xotcl => simp [ObjectSystem.usual] at hunusual

/-- A world in which an object has a colon more in its name than its namespace ends with. -/
def nested : World where
  commands := ["::a:::b", "::a::run", "::nsf::object::exists"]
  oo := [("o", ["go", "get", "go"])]
  nsf := some [("::a::o", ["::a::own", "get"])]
  namespaces := [Namespace.root, "::a", "::a::inner", "::a::inner::most"]

theorem methods_report_nested :
    (∃ offer, ((Lookup.methods .main "g" (.known .oo) "o").run host nested).outcome = .ok offer ∧
      offer.Reports "g" ["go", "get", "go"]) ∧
    (∃ offer, ((Lookup.methods .main "::a::" (.known .nsf) "::a::o").run host nested).outcome =
        .ok offer ∧
      offer.Reports "::a::" ["::a:::b", "::a::run", "::nsf::object::exists", "::a::inner"]) ∧
    ((Lookup.methods .main "g" (.known .snit) "o").run host nested).events.filterMap
      Event.request? = [] := by
  have hmain : nested.Hosts .main := by decide
  have hshows : nested.ShowsNsf := by decide
  refine ⟨?_, ?_, ?_⟩
  · exact (methods_report_listed nested .main hmain hshows (.known .oo) "o" "g" (by decide)).1
  · have hlisted : nested.methodsListed "::a::o" "::a::" (.known .nsf) =
        ["::a:::b", "::a::run", "::nsf::object::exists", "::a::inner"] := by decide
    rw [← hlisted]
    exact (methods_report_listed nested .main hmain hshows (.known .nsf) "::a::o" "::a::"
      (by decide)).1
  · exact ((methods_report_listed nested .main hmain hshows (.known .snit) "o" "g" (by decide)).2
      (by decide)).1

end TabCompletion.World
