import TabCompletion.Proofs.Lookup.Coherence
import TabCompletion.Proofs.Lookup.Dereferencing

/-! # Systems tried one after the other

Where nothing tells which object system an object belongs to, the lookups of several systems are run
one after the other, up to the first that finds something or fails. Replies may change in between, so
each lookup is run in the state in which the one before it leaves the host. -/

namespace TabCompletion

open Dialogue

variable {α σ : Type}

/-! ## Runs in turn -/

namespace Dialogue

/-- The runs of some dialogues, each in the state in which the run before it leaves the host,
whatever that came to. -/
def runsInTurn (host : Host σ) : List (Dialogue α) → σ → List (Run σ α)
  | [], _ => []
  | d :: rest, s => d.run host s :: runsInTurn host rest (d.run host s).state

theorem exists_of_mem_runsInTurn {host : Host σ} {dialogues : List (Dialogue α)} {s : σ}
    {run : Run σ α} (h : run ∈ runsInTurn host dialogues s) :
    ∃ d ∈ dialogues, ∃ t, run = d.run host t := by
  induction dialogues generalizing s with
  | nil => simp [runsInTurn] at h
  | cons d rest ih =>
      rcases List.mem_cons.mp h with rfl | h
      · exact ⟨d, by simp, s, rfl⟩
      · obtain ⟨d', hd', t, ht⟩ := ih h
        exact ⟨d', by simp [hd'], t, ht⟩

/-- A relaying dialogue that fails has asked nothing after the request that failed, and has been
answered before. -/
theorem Relays.events_of_error {P : Request → Prop} {d : Dialogue α} (hd : d.Relays P)
    {host : Host σ} {s : σ} {e : Failure} (h : (d.run host s).outcome = .error e) :
    ∃ before request, (d.run host s).events = before ++ [.asked request (.error e)] ∧
      ∀ exchange ∈ Event.exchanges before, ∃ answer, exchange.reply = .ok answer := by
  induction hd generalizing s with
  | done a => cases h
  | tell output _ ih =>
      obtain ⟨before, request, hevents, hanswered⟩ := ih h
      exact ⟨.told output :: before, request, congrArg (Event.told output :: ·) hevents, hanswered⟩
  | @ask request next _ herror _ ih =>
      simp only [run] at h ⊢
      cases hreply : (host request s).1 with
      | ok answer =>
          rw [hreply] at h
          obtain ⟨before, last, hevents, hanswered⟩ := ih answer h
          refine ⟨.asked request (.ok answer) :: before, last, by rw [hevents]; rfl, ?_⟩
          simp only [Event.exchanges_asked, List.forall_mem_cons]
          exact ⟨⟨answer, rfl⟩, hanswered⟩
      | error e' =>
          rw [hreply, herror e'] at h
          obtain rfl : e' = e := Except.error.inj h
          rw [herror e']
          exact ⟨[], request, rfl, by simp⟩

end Dialogue

/-- The state in which runs, one after the other, leave a host. -/
def Run.stateAfter (runs : List (Run σ α)) (s : σ) : σ :=
  runs.foldl (fun _ run => run.state) s

/-! ## The first that decides -/

namespace Lookup

/-- A run that is made up of lookups in turn: of those that find nothing, and then of the one that
decides, because it finds something or fails. What comes after that is not run. If no lookup decides,
what was typed is left as it is. -/
def MadeUpOf (typed : String) (lookups : List (Run σ Offer)) (s : σ) (run : Run σ Offer) : Prop :=
  ∃ missed rest, lookups = missed ++ rest ∧
    (∀ lookup ∈ missed, lookup.outcome = .ok ⟨typed, []⟩) ∧
    match rest with
    | [] => run = ⟨.ok ⟨typed, []⟩, missed.flatMap Run.events, Run.stateAfter missed s⟩
    | deciding :: _ =>
      ((∃ offer, deciding.outcome = .ok offer ∧ offer.names ≠ []) ∨
        ∃ e, deciding.outcome = .error e) ∧
      run = ⟨deciding.outcome, missed.flatMap Run.events ++ deciding.events, deciding.state⟩

variable {typed : String} {lookup run : Run σ Offer} {later : List (Run σ Offer)} {s : σ}

theorem madeUpOf_deciding
    (h : (∃ offer, lookup.outcome = .ok offer ∧ offer.names ≠ []) ∨
      ∃ e, lookup.outcome = .error e) :
    MadeUpOf typed (lookup :: later) s lookup :=
  ⟨[], lookup :: later, rfl, by simp, h, rfl⟩

theorem MadeUpOf.cons (h : MadeUpOf typed later lookup.state run)
    (hmissed : lookup.outcome = .ok ⟨typed, []⟩) :
    MadeUpOf typed (lookup :: later) s
      ⟨run.outcome, lookup.events ++ run.events, run.state⟩ := by
  obtain ⟨missed, rest, rfl, hnothing, hrun⟩ := h
  refine ⟨lookup :: missed, rest, rfl, List.forall_mem_cons.mpr ⟨hmissed, hnothing⟩, ?_⟩
  cases rest with
  | nil =>
      subst hrun
      rfl
  | cons deciding _ =>
      obtain ⟨hdecides, rfl⟩ := hrun
      exact ⟨hdecides, by simp⟩

variable (host : Host σ) (scope : Scope)

/-- A lookup that finds nothing leaves what was typed as it is. -/
theorem eq_nothing_of_methods {tag : ObjectSystem.Tag} {token : String} {offer : Offer}
    (h : ((methods scope typed tag token).run host s).outcome = .ok offer)
    (hnone : offer.names = []) : offer = ⟨typed, []⟩ := by
  obtain ⟨found, rfl, -⟩ := exists_candidates_of_methods h
  have hperm := ascending_perm found
  rw [← Offer.names_ofCandidates typed, hnone] at hperm
  rw [← hperm.nil_eq]
  rfl

/-- Trying systems in turn makes up one run of their lookups: the next system is tried only where the
one before finds nothing, in the state in which that leaves the host. -/
theorem madeUpOf_firstMethods (typed token : String) (tags : List ObjectSystem.Tag) (s : σ) :
    MadeUpOf typed (runsInTurn host (tags.map fun tag => methods scope typed tag token) s) s
      ((firstMethods scope typed token tags).run host s) := by
  -- for every state, since the later systems are tried in the one that this one leaves
  induction tags generalizing s with
  | nil => exact ⟨[], [], rfl, by simp, rfl⟩
  | cons tag rest ih =>
      have hlater := ih ((methods scope typed tag token).run host s).state
      rw [firstMethods, run_bind, List.map_cons, runsInTurn]
      cases houtcome : ((methods scope typed tag token).run host s).outcome with
      | error e =>
          simp only
          rw [← houtcome]
          exact madeUpOf_deciding (.inr ⟨e, houtcome⟩)
      | ok offer =>
          by_cases hnone : offer.names = []
          · obtain rfl := eq_nothing_of_methods host scope houtcome hnone
            exact hlater.cons houtcome
          · simp only [List.isEmpty_eq_false_iff.mpr hnone, Bool.false_eq_true, ite_false,
              run_pure, List.append_nil]
            rw [← houtcome]
            exact madeUpOf_deciding (.inl ⟨offer, houtcome, hnone⟩)

/-- A lookup for what a variable holds starts with reading it. -/
theorem exists_exchanges_methods_dollar (typed holder : String) (tag : ObjectSystem.Tag) (s : σ) :
    ∃ reply later, Event.exchanges ((methods scope typed tag ("$" ++ holder)).run host s).events =
      ⟨scope.looking .value ["::set", holder], reply⟩ :: later := by
  rw [methods_dollar, run_bind, run_query]
  split
  · exact ⟨_, _, rfl⟩
  · exact ⟨_, _, rfl⟩

/-- Looking for an object in several systems, the usual ones if none is named, is looking in one
after the other, up to the first that finds something or fails: the offer or the failure is that of
the deciding lookup, all that is told and asked is what the lookups up to it tell and ask, one after
the other, and the host is left as the last of them leaves it. If no system finds anything, what was
typed is left as it is. Each of the lookups reads the variable anew if the object is held by one, and
nothing is asked after a query that failed. -/
theorem anyMethods_made_up_of_lookups (host : Host σ) (s : σ) (scope : Scope) (typed token : String)
    (tags : List ObjectSystem.Tag) :
    let systems := if tags = [] then [.known .oo, .known .nsf, .known .xotcl] else tags
    let lookups := runsInTurn host (systems.map fun tag => methods scope typed tag token) s
    let run := (anyMethods scope typed token tags).run host s
    MadeUpOf typed lookups s run ∧
      (∀ holder, token = "$" ++ holder → ∀ lookup ∈ lookups, ∃ reply later,
        Event.exchanges lookup.events =
          ⟨scope.looking .value ["::set", holder], reply⟩ :: later) ∧
      ∀ e, run.outcome = .error e → ∃ before request,
        run.events = before ++ [.asked request (.error e)] ∧
        ∀ exchange ∈ Event.exchanges before, ∃ answer, exchange.reply = .ok answer := by
  intro systems lookups run
  have hsystems : ObjectSystem.orUsual tags = systems := by
    cases tags <;> rfl
  have hrun : run = (firstMethods scope typed token systems).run host s := by
    rw [← hsystems]
    rfl
  refine ⟨?_, ?_, ?_⟩
  · rw [hrun]
    exact madeUpOf_firstMethods host scope typed token systems s
  · rintro holder rfl lookup hlookup
    obtain ⟨d, hd, t, rfl⟩ := exists_of_mem_runsInTurn hlookup
    obtain ⟨tag, -, rfl⟩ := List.mem_map.mp hd
    exact exists_exchanges_methods_dollar host scope typed holder tag t
  · intro e he
    rw [hrun] at he ⊢
    exact (consults_firstMethods scope typed token systems).relays.events_of_error he

end Lookup

end TabCompletion
