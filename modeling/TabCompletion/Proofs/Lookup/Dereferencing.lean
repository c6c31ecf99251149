import TabCompletion.Proofs.Lookup.Frame

/-! # Receivers that a variable holds

The object whose methods are looked up may be named by a variable. The variable is read first and
only once; its value is then a name, whatever it looks like. -/

namespace TabCompletion

open Dialogue

theorem Receiver.ofToken_dollar (holder : String) :
    Receiver.ofToken ("$" ++ holder) = .heldBy holder := by
  have htoken : ("$" ++ holder).toList = '$' :: holder.toList := by simp
  unfold ofToken
  rw [htoken]
  simp

namespace Lookup

variable {scope : Scope} {typed : String} {tag : ObjectSystem.Tag}

theorem methods_dollar (scope : Scope) (typed : String) (tag : ObjectSystem.Tag)
    (holder : String) :
    methods scope typed tag ("$" ++ holder) =
      scope.query .value ["::set", holder] >>= fun object => methodsOf scope object typed tag := by
  rw [methods, Receiver.ofToken_dollar]
  rfl

theorem methods_named {object : String} (h : object.toList.head? ≠ some '$') :
    methods scope typed tag object = methodsOf scope object typed tag := by
  rw [methods, World.ofToken_eq_named h]
  rfl

end Lookup

namespace World

variable {w : World} {scope : Scope}

/-! ## Runs -/

/-- What a lookup asks after a variable was read is what it would have asked at once. -/
theorem run_methods_held (h : w.Hosts scope) {holder object : String}
    (hset : w.scalars.lookup holder = some object) (typed : String) (tag : ObjectSystem.Tag) :
    let run := (Lookup.methods scope typed tag ("$" ++ holder)).run host w
    let direct := (Lookup.methodsOf scope object typed tag).run host w
    run.outcome = direct.outcome ∧
      run.events = scope.consulting .value ["::set", holder] (.ok object) ++ direct.events := by
  have hreply := replies_reading h hset
  have hasks := (Lookup.consults_methodsOf scope object typed tag).relays_covers.asks
  rw [Lookup.methods_dollar, run_query_bind hreply]
  -- the query that reads the variable is logged, which no later reply depends on
  constructor
  · exact (run_of_asks_after hasks w _).1.trans (run_outcome hasks w).symm
  · exact congrArg (scope.consulting .value ["::set", holder] (.ok object) ++ ·)
      (events_run_of_asks_after hasks w _)

theorem run_methods_unheld (h : w.Hosts scope) {holder : String}
    (hunset : w.scalars.lookup holder = none) (typed : String) (tag : ObjectSystem.Tag) :
    ∃ r, (Lookup.methods scope typed tag ("$" ++ holder)).run host w =
      ⟨.error (.rejected r), scope.consulting .value ["::set", holder] (.error (.rejected r)),
        w.consulted scope [["::set", holder]]⟩ := by
  obtain ⟨r, hr⟩ := replies_reading_of_unset h hunset
  have hreply : (host (scope.looking .value ["::set", holder]) w).1 = .error (.rejected r) := hr
  refine ⟨r, ?_⟩
  rw [Lookup.methods_dollar, run_bind, run_query, hreply]
  rfl

/-- Where the scope exists, a receiver after a dollar sign is dereferenced once, whatever the
system. If the variable is not set, the lookup is refused after the one query that reads it.
Otherwise it comes to what it comes to for the value as a name, even if that begins with a dollar
sign itself; the query that reads the variable is put before all others, and the world keeps a record
of it before theirs. -/
theorem methods_dereferenced_once (w : World) (scope : Scope) (hscope : w.Hosts scope)
    (tag : ObjectSystem.Tag) (holder typed : String) :
    let run := (Lookup.methods scope typed tag ("$" ++ holder)).run host w
    let reading := ["::set", holder]
    (w.scalars.lookup holder = none → ∃ r, run.outcome = .error (.rejected r) ∧
      run.events = scope.consulting .value reading (.error (.rejected r)) ∧
      run.state = w.consulted scope [reading]) ∧
    ∀ object, w.scalars.lookup holder = some object →
      let direct := (Lookup.methodsOf scope object typed tag).run host w
      run.outcome = direct.outcome ∧
      run.events = scope.consulting .value reading (.ok object) ++ direct.events ∧
      (∃ queries, Event.Announced scope direct.events queries ∧
        direct.state = w.consulted scope queries ∧
        run.state = w.consulted scope (reading :: queries)) ∧
      (object.toList.head? ≠ some '$' →
        direct = (Lookup.methods scope typed tag object).run host w) := by
  intro run reading
  constructor
  · intro hunset
    obtain ⟨r, hrun⟩ := run_methods_unheld hscope hunset typed tag
    exact ⟨r, congrArg Run.outcome hrun, congrArg Run.events hrun, congrArg Run.state hrun⟩
  · intro object hset direct
    obtain ⟨houtcome, hevents⟩ := run_methods_held hscope hset typed tag
    obtain ⟨queries, hqueries⟩ :=
      (Lookup.consults_methodsOf scope object typed tag).announced host w
    refine ⟨houtcome, hevents, ⟨queries, hqueries, state_run_host hqueries, ?_⟩, ?_⟩
    · apply state_run_host
      rw [hevents]
      exact .query .value reading _ hqueries
    · intro hliteral
      rw [Lookup.methods_named hliteral]

/-- A world in which a variable holds the name of another one, dollar sign included, and an object
has that name. -/
def chained : World where
  scalars := [("x", "$y"), ("y", "o")]
  oo := [("$y", ["get"]), ("o", ["put"])]

theorem methods_dereferenced_chained :
    ((Lookup.methods .main "" (.known .oo) "$x").run host chained).outcome =
        .ok ⟨"get", ["get"]⟩ ∧
      ((Lookup.methods .main "" (.known .snit) "$z").run host chained).events.filterMap
        Event.request? = [Scope.main.looking .value ["::set", "z"]] := by
  have hmain : chained.Hosts .main := by decide
  have hheld := (methods_dereferenced_once chained .main hmain (.known .oo) "x" "").2 "$y"
    (by decide)
  obtain ⟨r, -, hevents, -⟩ :=
    (methods_dereferenced_once chained .main hmain (.known .snit) "z" "").1 (by decide)
  have hdirect : ((Lookup.methodsOf .main "$y" "" (.known .oo)).run host chained).outcome =
      .ok ⟨"get", ["get"]⟩ := by rfl
  have hrequests := congrArg (List.filterMap Event.request?) hevents
  exact ⟨hheld.1.trans hdirect, hrequests⟩

end World

end TabCompletion
