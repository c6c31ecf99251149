import TabCompletion.Proofs.Dialogue.Terms
import TabCompletion.Proofs.Lookup.Relaying
import TabCompletion.ScriptedHost

/-! # Queries that are put to objects

The name of an object comes from the user, and a query whose first word it is runs whatever command
has that name. A lookup puts such a query only where the object's system has just been found, and
has just said that the object is one of its own. -/

namespace TabCompletion

open Dialogue

namespace Lookup

variable (scope : Scope)

/-! ## Commands that only look -/

/-- The first words of the queries that say nothing of what the user typed. -/
def lookingCommands : List String :=
  ["::info", "::set", "::array", "::namespace", "::nsf::object::exists", "::xotcl::Object"]

/-- A request whose first word is not the user's. -/
def Looks : Request → Prop
  | .query _ call => ∃ first ∈ lookingCommands, call.words.head? = some first
  | _ => False

theorem looks_looking {kind : Kind} {first : String} {words : List String}
    (h : first ∈ lookingCommands) : Looks (scope.looking kind (first :: words)) :=
  ⟨first, h, rfl⟩

theorem relays_looking {kind : Kind} {first : String} {words : List String}
    (h : first ∈ lookingCommands) : (scope.query kind (first :: words)).Relays Looks :=
  .tell _ (relays_request (looks_looking scope h))

/-! ## Clearance -/

/-- The exchanges by which the name of an object is found: none if it was typed itself, else the one
that reads the variable. -/
inductive Resolves : Receiver → String → List Exchange → Prop
  | named (name : String) : Resolves (.named name) name []
  | heldBy (holder object : String) :
      Resolves (.heldBy holder) object [⟨scope.looking .value ["::set", holder], .ok object⟩]

/-- A query put to an object itself, after all that was exchanged before it in the same lookup: the
name of the object was found, then its system, and then the object in the system. -/
inductive Cleared (token typed : String) : List Exchange → Request → Prop
  | nsf {object : String} {resolution : List Exchange} {found : List String} :
      Resolves scope (Receiver.ofToken token) object resolution → found ≠ [] →
      Cleared token typed
        (resolution ++
          [⟨scope.looking .names ["::info", "commands", "::nsf::object::exists"], .ok found⟩,
            ⟨scope.looking .flag ["::nsf::object::exists", object], .ok true⟩])
        (scope.looking .names
          [object, "::nsf::methods::object::info::lookupmethods", "-callprotection", "public",
            "-path", "--", Glob.startingWith typed])
  | xotcl {object : String} {resolution : List Exchange} :
      Resolves scope (Receiver.ofToken token) object resolution →
      Cleared token typed
        (resolution ++
          [⟨scope.looking .flag ["::info", "exists", "::xotcl::version"], .ok true⟩,
            ⟨scope.looking .flag ["::xotcl::Object", "isobject", object], .ok true⟩])
        (scope.looking .names [object, "info", "methods", Glob.startingWith typed])

/-- Exchanges of one lookup, each of which only looks or is cleared by those before it. -/
def ClearedThroughout (token typed : String) (lookup : List Exchange) : Prop :=
  ∀ before exchange after, lookup = before ++ exchange :: after →
    Looks exchange.request ∨ Cleared scope token typed before exchange.request

/-! ## Single lookups -/

/-- The terms of a lookup: whatever the replies, each request looks or is cleared. -/
def clearance (token typed : String) : Terms where
  trusts _ _ := True
  allows past request :=
    Looks request ∨ Cleared scope token typed (Event.exchanges past) request

variable {scope} {token typed : String} {past : List Event} {object : String}

theorem clearance_looking {kind : Kind} {first : String} {words : List String}
    (h : first ∈ lookingCommands) :
    (clearance scope token typed).allows past (scope.looking kind (first :: words)) :=
  .inl (looks_looking scope h)

theorem keeps_objectName :
    ((Receiver.ofToken token).objectName scope).Keeps (clearance scope token typed) []
      fun events outcome => ∀ object, outcome = .ok object →
        Resolves scope (Receiver.ofToken token) object (Event.exchanges events) := by
  cases Receiver.ofToken token with
  | named name =>
      rintro object ⟨⟩
      exact .named name
  | heldBy holder =>
      refine keeps_query (clearance_looking (by decide)) ?_
      rintro reply - object rfl
      exact .heldBy holder object

theorem keeps_ooMethods :
    (ooMethods scope object typed).Keeps (clearance scope token typed) past fun _ _ => True := by
  refine keeps_query_bind (clearance_looking (by decide)) ?_ fun _ _ => trivial
  intro known _
  split
  · exact keeps_query_bind (clearance_looking (by decide)) (fun _ _ => trivial) fun _ _ => trivial
  · trivial

theorem keeps_nsfAbsolute :
    (nsfAbsolute scope typed).Keeps (clearance scope token typed) past fun _ _ => True := by
  refine keeps_query_bind (clearance_looking (by decide)) ?_ fun _ _ => trivial
  intro found _
  exact keeps_query_bind (clearance_looking (by decide)) (fun _ _ => trivial) fun _ _ => trivial

theorem keeps_nsfLoaded :
    (nsfLoaded scope).Keeps (clearance scope token typed) past
      fun events outcome => outcome = .ok true → ∃ found, found ≠ [] ∧
        Event.exchanges events = Event.exchanges past ++
          [⟨scope.looking .names ["::info", "commands", "::nsf::object::exists"], .ok found⟩] := by
  refine keeps_query_bind (clearance_looking (by decide)) ?_ ?_
  · intro found _ hloaded
    refine ⟨found, ?_, by simp⟩
    rintro rfl
    cases hloaded
  · rintro e - ⟨⟩

theorem keeps_nsfMethods
    (h : Resolves scope (Receiver.ofToken token) object (Event.exchanges past)) :
    (nsfMethods scope object typed).Keeps (clearance scope token typed) past fun _ _ => True := by
  refine keeps_nsfLoaded.bind ?_ fun _ _ _ => trivial
  intro events loaded hloaded
  split
  · next hyes =>
    obtain ⟨found, hne, hevents⟩ := hloaded (by rw [hyes])
    refine keeps_query_bind (clearance_looking (by decide)) ?_ fun _ _ => trivial
    intro known _
    split
    · next hknown =>
      subst hknown
      split
      · exact keeps_nsfAbsolute
      · refine keeps_query (.inr ?_) fun _ _ => trivial
        have hcleared : Cleared scope token typed _ _ := .nsf h hne
        simpa [hevents] using hcleared
    · trivial
  · trivial

theorem keeps_xotclMethods
    (h : Resolves scope (Receiver.ofToken token) object (Event.exchanges past)) :
    (xotclMethods scope object typed).Keeps (clearance scope token typed) past
      fun _ _ => True := by
  refine keeps_query_bind (clearance_looking (by decide)) ?_ fun _ _ => trivial
  intro loaded _
  split
  · next hloaded =>
    subst hloaded
    refine keeps_query_bind (clearance_looking (by decide)) ?_ fun _ _ => trivial
    intro known _
    split
    · next hknown =>
      subst hknown
      refine keeps_query (.inr ?_) fun _ _ => trivial
      have hcleared : Cleared scope token typed _ _ := .xotcl h
      simpa using hcleared
    · trivial
  · trivial

theorem keeps_candidates (system : ObjectSystem)
    (h : Resolves scope (Receiver.ofToken token) object (Event.exchanges past)) :
    (candidates scope object typed system).Keeps (clearance scope token typed) past
      fun _ _ => True := by
  cases system with
  | ensemble => trivial
  | oo => exact keeps_ooMethods
  | snit => trivial
  | nsf => exact keeps_nsfMethods h
  | xotcl => exact keeps_xotclMethods h

theorem keeps_methods (tag : ObjectSystem.Tag) :
    (methods scope typed tag token).Keeps (clearance scope token typed) [] fun _ _ => True := by
  refine keeps_objectName.bind ?_ fun _ _ _ => trivial
  intro events object hobject
  cases tag with
  | known system =>
      exact (keeps_candidates system (hobject object rfl)).bind (fun _ _ _ => trivial)
        fun _ _ _ => trivial
  | unknown name => trivial

/-! ## Runs -/

variable {σ : Type} (host : Host σ) (s : σ)

theorem clearedThroughout_methods (scope : Scope) (typed : String) (tag : ObjectSystem.Tag)
    (token : String) :
    ClearedThroughout scope token typed
      (Event.exchanges ((methods scope typed tag token).run host s).events) := by
  intro before exchange after hexchanges
  obtain ⟨front, rest, hevents, rfl⟩ := Event.exists_of_exchanges_eq hexchanges
  obtain ⟨-, hallowed⟩ := (keeps_methods tag).run (fun _ _ => trivial) s
  exact hallowed front _ _ rest hevents

/-- The exchanges of some lookups of methods, one after the other, each cleared by itself. -/
def ClearedByLookup (scope : Scope) (token typed : String) (exchanges : List Exchange) : Prop :=
  ∃ lookups : List (List Exchange), exchanges = lookups.flatten ∧
    ∀ lookup ∈ lookups,
      (∃ tag t, lookup = Event.exchanges ((methods scope typed tag token).run host t).events) ∧
        ClearedThroughout scope token typed lookup

theorem clearedByLookup_firstMethods (scope : Scope) (typed token : String)
    (tags : List ObjectSystem.Tag) :
    ClearedByLookup host scope token typed
      (Event.exchanges ((firstMethods scope typed token tags).run host s).events) := by
  induction tags generalizing s with
  | nil => exact ⟨[], rfl, by simp⟩
  | cons tag rest ih =>
      -- the next system is tried in the state in which this lookup leaves the host
      obtain ⟨lookups, hlookups, hcleared⟩ := ih ((methods scope typed tag token).run host s).state
      have hfirst := clearedThroughout_methods host s scope typed tag token
      rw [firstMethods, run_bind]
      generalize hlookup :
        Event.exchanges ((methods scope typed tag token).run host s).events = lookup at hfirst
      have halone : ClearedByLookup host scope token typed lookup :=
        ⟨[lookup], by simp, by simpa using ⟨⟨tag, s, hlookup.symm⟩, hfirst⟩⟩
      split
      · split
        · refine ⟨lookup :: lookups, by simp [hlookup, hlookups], ?_⟩
          rw [List.forall_mem_cons]
          exact ⟨⟨⟨tag, s, hlookup.symm⟩, hfirst⟩, hcleared⟩
        · simpa [hlookup] using halone
      · simpa [hlookup] using halone

theorem relays_vars_looks (scope : Scope) (typed : String) : (vars scope typed).Relays Looks := by
  unfold vars
  split
  · exact (relays_looking scope (by decide)).bind fun _ =>
      (relays_note _ _).bind fun _ => relays_pure _ _
  · exact (relays_looking scope (by decide)).bind fun _ => relays_pure _ _

theorem relays_commands_looks (scope : Scope) (typed : String) :
    (commands scope typed).Relays Looks :=
  (relays_looking scope (by decide)).bind fun _ => relays_pure _ _

/-- Whatever the replies, no word of the user becomes a command unchecked: every query of a lookup
of methods starts with the name of a command that only looks, or is put to an object that its system
has just recognised. The queries for several systems come one lookup after the other, and
completing puts queries of these kinds only. -/
theorem queries_cleared_throughout (host : Host σ) (s : σ) (scope : Scope) :
    (∀ tag token typed, ClearedThroughout scope token typed
      (Event.exchanges ((methods scope typed tag token).run host s).events)) ∧
    (∀ tags token typed, ClearedByLookup host scope token typed
      (Event.exchanges ((anyMethods scope typed token tags).run host s).events)) ∧
    ∀ (completer : Completer) (text : String),
      let exchanges := Event.exchanges ((completer.resolve scope text).run host s).events
      (∀ exchange ∈ exchanges, Looks exchange.request) ∨
        ∃ token, (Draft.ofText text).words = [token] ∧
          ClearedByLookup host scope token (Draft.ofText text).word exchanges := by
  refine ⟨?_, ?_, ?_⟩
  · intro tag token typed
    exact clearedThroughout_methods host s scope typed tag token
  · intro tags token typed
    exact clearedByLookup_firstMethods host s scope typed token _
  · intro completer text
    rw [Completer.resolve, events_run_bind_pure]
    unfold Completer.offer?
    split
    · rw [events_run_bind_pure]
      exact .inl ((relays_vars_looks scope _).asks.exchanges host s)
    · split
      · split
        · exact .inl (by simp)
        · rw [events_run_map]
          exact .inl ((relays_commands_looks scope _).asks.exchanges host s)
      · next token hwords =>
        rw [events_run_map]
        exact .inr ⟨token, hwords, clearedByLookup_firstMethods host s scope _ _ _⟩
      · exact .inl (by simp)

/-- Replies to a lookup of the methods of an object that a variable holds. -/
def recognised : ScriptedHost :=
  ⟨[.value "::o", .names ["::nsf::object::exists"], .flag true, .names ["get"]], []⟩

theorem queries_cleared_recognised :
    Cleared .main "$x" "g"
      [⟨Scope.main.looking .value ["::set", "x"], .ok "::o"⟩,
        ⟨Scope.main.looking .names ["::info", "commands", "::nsf::object::exists"],
          .ok ["::nsf::object::exists"]⟩,
        ⟨Scope.main.looking .flag ["::nsf::object::exists", "::o"], .ok true⟩]
      (Scope.main.looking .names
        ["::o", "::nsf::methods::object::info::lookupmethods", "-callprotection", "public",
          "-path", "--", "g*"]) := by
  have hlooks : ¬ Looks (Scope.main.looking .names
      ["::o", "::nsf::methods::object::info::lookupmethods", "-callprotection", "public",
        "-path", "--", "g*"]) := by
    rintro ⟨first, hmem, hfirst⟩
    obtain rfl := Option.some.inj hfirst
    revert hmem
    decide
  have hcleared :=
    (queries_cleared_throughout ScriptedHost.host recognised .main).1 (.known .nsf) "$x" "g"
  exact (hcleared [_, _, _] ⟨_, .ok ["get"]⟩ [] rfl).resolve_left hlooks

end Lookup

end TabCompletion
