import TabCompletion.Proofs.Completer.Edits
import TabCompletion.Proofs.Dialogue.Simulation
import TabCompletion.Proofs.Lookup.Inquiry

/-! # The two ways to ask a world

Lookups put each of their queries so that the answer has the shape in which it is read. A world then
answers alike whether it is asked directly or through a binding, but for the way in which a refusal
is told. -/

namespace TabCompletion

open Dialogue

variable {α : Type}

namespace World

/-! ## Answers and their shapes -/

/-- What a world gives for an answer. -/
def given : (kind : Kind) → kind.Answer → Value
  | .names, names => texts names
  | .flag, b => .truth b
  | .value, s => .text s

theorem readAs_given {kind : Kind} (a : kind.Answer) : readAs kind (given kind a) = .ok a := by
  cases kind with
  | names => exact readAs_texts a
  | flag => rfl
  | value => rfl

/-- A binding makes of a truth value a text and of that the truth value again. -/
theorem plainTruth_handedOver (b : Bool) : Binding.plainTruth (handedOver (.truth b)) = .ok b := by
  cases b <;> decide +kernel

theorem bridge_readAs_given {kind : Kind} (call : Call) (a : kind.Answer) :
    Bridge.readAs binding call kind (handedOver (given kind a)) = .ok a := by
  cases kind with
  | names =>
      have hitems : binding.items (handedOver (given .names a)) = .ok (a.map .text) := rfl
      rw [Bridge.readAs, hitems]
      simp [Function.comp_def, Value.asText]
  | flag =>
      have htruth : binding.truth (handedOver (given .flag a)) = .ok a := plainTruth_handedOver a
      simp only [Bridge.readAs, htruth]
  | value => rfl

variable {w : World} {ns : String}

theorem extensionAnswer?_of_answer {words : List String} {value : Value}
    (hcore : w.coreAnswer? ns words = none) (hanswer : w.answer ns words = .ok value) :
    w.extensionAnswer? words = some value := by
  simp only [answer, hcore] at hanswer
  cases hextension : w.extensionAnswer? words with
  | some found =>
      simp only [hextension] at hanswer
      rw [Except.ok.inj hanswer]
  | none => cases words <;> simp [hextension] at hanswer

/-- Whatever a lookup asks, the answer has the shape in which it is read. -/
theorem eq_given_of_answer {kind : Kind} {words : List String} (h : Lookup.Puts kind words)
    {value : Value} (hanswer : w.answer ns words = .ok value) : ∃ a, value = given kind a := by
  cases h with
  | commands pattern => exact ⟨_, (Except.ok.inj hanswer).symm⟩
  | vars pattern => exact ⟨_, (Except.ok.inj hanswer).symm⟩
  | elements array pattern => exact ⟨_, (Except.ok.inj hanswer).symm⟩
  | children parent pattern => exact ⟨_, (Except.ok.inj hanswer).symm⟩
  | isObject object => exact ⟨_, (Except.ok.inj hanswer).symm⟩
  | xotclLoaded => exact ⟨_, (Except.ok.inj hanswer).symm⟩
  | reading holder =>
      cases hlookup : w.scalars.lookup holder with
      | some s =>
          simp only [answer, coreAnswer?, hlookup] at hanswer
          exact ⟨s, (Except.ok.inj hanswer).symm⟩
      | none => simp [answer, coreAnswer?, hlookup] at hanswer
  | ooMethods object =>
      cases hlookup : w.oo.lookup object with
      | some methods =>
          simp only [answer, coreAnswer?, hlookup] at hanswer
          exact ⟨methods, (Except.ok.inj hanswer).symm⟩
      | none => simp [answer, coreAnswer?, hlookup] at hanswer
  | isNsfObject object =>
      have hextension := extensionAnswer?_of_answer rfl hanswer
      obtain ⟨objects, -, rfl⟩ := Option.map_eq_some_iff.mp hextension
      exact ⟨_, rfl⟩
  | isXotclObject object =>
      have hextension := extensionAnswer?_of_answer rfl hanswer
      obtain ⟨objects, -, rfl⟩ := Option.map_eq_some_iff.mp hextension
      exact ⟨_, rfl⟩
  | nsfMethods object pattern =>
      have hextension := extensionAnswer?_of_answer (by simp [coreAnswer?]) hanswer
      simp only [extensionAnswer?, Option.bind_eq_bind, Option.pure_def,
        Option.bind_eq_some_iff] at hextension
      obtain ⟨objects, -, methods, -, hvalue⟩ := hextension
      exact ⟨_, (Option.some.inj hvalue).symm⟩
  | xotclMethods object pattern =>
      have hextension := extensionAnswer?_of_answer (by simp [coreAnswer?]) hanswer
      simp only [extensionAnswer?, Option.bind_eq_bind, Option.pure_def,
        Option.bind_eq_some_iff] at hextension
      obtain ⟨objects, -, methods, -, hvalue⟩ := hextension
      exact ⟨_, (Option.some.inj hvalue).symm⟩

/-! ## Failures -/

/-- The failures of a world that is looked at: refusals of the command, an object that is asked for
its methods and is not known, and a command without words. -/
inductive Fault (words : List String) : Failure → Prop
  | rejected (message : String) : Fault words (refuse words message)
  | noSuchObject (name : String) : Fault words (.noSuchObject name)
  | noWords : Fault words .noWords

theorem fault_of_coreAnswer? {words : List String} {e : Failure}
    (h : w.coreAnswer? ns words = some (.error e)) : Fault words e := by
  unfold coreAnswer? at h
  split at h
  all_goals try (split at h)
  all_goals cases h
  -- what is left: an unset variable, an object that is not known, a namespace that is not listed
  · exact .rejected _
  · exact .noSuchObject _
  · exact .rejected _

theorem fault_of_answer {words : List String} {e : Failure}
    (h : w.answer ns words = .error e) : Fault words e := by
  unfold answer at h
  split at h
  · next hcore =>
    subst h
    exact fault_of_coreAnswer? hcore
  · split at h
    · cases h
    · cases h
      exact .noWords
    · cases h
      exact .rejected _

theorem fault_of_look {call : Call} {e : Failure} (h : (w.look call).1 = .error e) :
    Fault call.words e := by
  unfold look at h
  simp only at h
  split at h
  · cases h
    exact .rejected _
  · split at h
    · cases h
      exact .rejected _
    · exact fault_of_answer h

theorem answer_of_look {call : Call} {value : Value} (h : (w.look call).1 = .ok value) :
    w.answer call.ns call.words = .ok value := by
  unfold look at h
  simp only at h
  split at h
  · cases h
  · split at h
    · cases h
    · exact h

/-- A refusal as it is told through a binding: with its command before the message, and the message
itself as the cause. -/
def retold (interp : String) : Failure → Failure
  | .rejected r =>
    .rejected ⟨" ".intercalate r.words ++ ": " ++ r.message, r.words, interp, some r.message⟩
  | other => other

theorem words?_map_text (words : List String) : words? (words.map .text) = some words := by
  induction words with
  | nil => rfl
  | cons word rest ih => simp [words?, ih]

/-! ## One query -/

variable (scope : Scope)

/-- A command that only looks reaches the world behind a binding as one query. -/
theorem callIn_linked (words : List String) (w : World) :
    Bridge.callIn binding scope.interp (Bridge.queryScript scope.ns words) words (linked w) =
      ((((w.look ⟨scope.interp, scope.ns, words⟩).1.mapError asBindingFailure).map
          handedOver).mapError (Bridge.refusal words scope.interp),
        linked (w.log ⟨scope.interp, scope.ns, words⟩)) := by
  have hrequest : request? [.text "::interp", .text "eval", .text scope.interp,
      .list (Bridge.queryScript scope.ns words)] =
        some (.query .value ⟨scope.interp, scope.ns, words⟩) := by
    simp [Bridge.queryScript, Bridge.texts, request?, words?_map_text]
  simp [Bridge.callIn, Bridge.withTexts, Bridge.call, binding, hrequest, serve, linked, look]

/-- The query as the world behind the binding is asked it, and how its answer is read. -/
theorem linkedHost_eq (kind : Kind) (words : List String) (w : World) :
    linkedHost (scope.looking kind words) (linked w) =
      ((((w.look ⟨scope.interp, scope.ns, words⟩).1.mapError asBindingFailure).map
          handedOver).mapError (Bridge.refusal words scope.interp) >>=
        Bridge.readAs binding ⟨scope.interp, scope.ns, words⟩ kind,
        linked (w.log ⟨scope.interp, scope.ns, words⟩)) := by
  simp only [linkedHost, Bridge.host, callIn_linked]

/-- A query that a lookup may put is answered alike both ways, and a refusal is told again. -/
theorem linkedHost_looking {kind : Kind} {words : List String} (h : Lookup.Puts kind words)
    (w : World) :
    linkedHost (scope.looking kind words) (linked w) =
      ((host (scope.looking kind words) w).1.mapError (retold scope.interp),
        linked (host (scope.looking kind words) w).2) := by
  have hdirect : host (scope.looking kind words) w =
      ((w.look ⟨scope.interp, scope.ns, words⟩).1 >>= readAs kind,
        w.log ⟨scope.interp, scope.ns, words⟩) := rfl
  rw [linkedHost_eq, hdirect]
  cases hlook : (w.look ⟨scope.interp, scope.ns, words⟩).1 with
  | ok value =>
      obtain ⟨a, rfl⟩ := eq_given_of_answer h (answer_of_look hlook)
      have hread := readAs_given a
      have hbridge := bridge_readAs_given ⟨scope.interp, scope.ns, words⟩ a
      refine Prod.ext ?_ rfl
      change Bridge.readAs binding _ kind (handedOver (given kind a)) =
        (readAs kind (given kind a)).mapError _
      rw [hread, hbridge]
      rfl
  | error e =>
      refine Prod.ext ?_ rfl
      cases fault_of_look hlook with
      | rejected message => rfl
      | noSuchObject name => rfl
      | noWords => rfl

/-! ## Inquiries -/

variable {scope} {d : Dialogue α}

theorem okOrRefused_consulting (h : ¬ w.Hosts scope) (hd : d.Consults scope Lookup.Puts) :
    OkOrRefused (fun _ => True) (d.outcome w.replies) := by
  induction hd with
  | done a => exact okOrRefused_pure trivial
  | aside _ _ ih => exact ih
  | @query kind words next _ herror _ _ =>
      obtain ⟨r, hr⟩ := replies_to_of_not_hosts h kind words
      refine .inr ⟨r, ?_⟩
      change (next (w.replies.to scope kind words)).outcome w.replies = _
      rw [hr, herror]
      rfl

/-- In a scope that does not exist, an inquiry is refused if it asks anything. -/
theorem okOrRefused_of_not_hosts (h : ¬ w.Hosts scope) (hd : d.Inquires scope Lookup.Puts) :
    OkOrRefused (fun _ => True) (d.outcome w.replies) := by
  cases hd with
  | consults hd => exact okOrRefused_consulting h hd
  | rescues remark answer _ hd =>
      refine .inl (exists_ok_rescue (okOrRefused_consulting h hd) fun r => ?_)
      exact ⟨answer, rfl, trivial⟩

/-- An inquiry of a world only fails by being refused. -/
theorem okOrRefused_inquiry (w : World) (scope : Scope) (inquiry : Inquiry) :
    OkOrRefused (fun _ => True) ((inquiry.dialogue scope).outcome w.replies) := by
  by_cases h : w.Hosts scope
  · cases inquiry with
    | commands typed => exact (extends_commands h typed).mono fun _ _ => trivial
    | vars typed => exact (extends_vars h typed).mono fun _ _ => trivial
    | methods tag token typed => exact (extends_methods h typed token tag).mono fun _ _ => trivial
    | anyMethods tags token typed =>
        exact (extends_firstMethods h typed token _).mono fun _ _ => trivial
    | resolve completer text =>
        refine okOrRefused_bind (Completer.extends_offer? h completer _) fun _ _ => ?_
        exact okOrRefused_pure trivial
    | edits completer text =>
        obtain ⟨edits, hedits, -⟩ := Completer.outcome_edits h completer text
        exact .inl ⟨edits, hedits, trivial⟩
  · exact okOrRefused_of_not_hosts h (inquiry.inquires scope)

/-! ## Runs -/

/-- Two runs about a scope, with a world that is asked directly and with the same world behind a
binding. They put the same requests and leave the same world; they are done with the same result, or
both are refused, the one behind the binding telling of the query that was put last, of its
interpreter and of the refusal by the world. -/
structure Concurs (scope : Scope) (direct : Run World α) (through : Run (Linked World) α) :
    Prop where
  requests : through.events.filterMap Event.request? = direct.events.filterMap Event.request?
  state : through.state = linked direct.state
  done : ∀ a, direct.outcome = .ok a → through.outcome = .ok a
  refused : ∀ e, direct.outcome = .error e → ∃ r : Rejection,
    e = .rejected r ∧ direct.state.calls.getLast? = some ⟨scope.interp, scope.ns, r.words⟩ ∧
      through.outcome = .error (.rejected
        ⟨" ".intercalate r.words ++ ": " ++ r.message, r.words, scope.interp, some r.message⟩)

/-- What a consulting dialogue is refused with tells of the query that was put last. -/
theorem getLast?_calls_of_refused {r : Rejection} (hd : d.Consults scope Lookup.Puts) (w : World)
    (h : (d.run host w).outcome = .error (.rejected r)) :
    (d.run host w).state.calls.getLast? = some ⟨scope.interp, scope.ns, r.words⟩ := by
  obtain ⟨request, t, ⟨kind, words, hputs, rfl⟩, hlast⟩ := hd.relays.exists_last w h
  obtain ⟨hreply, hstate⟩ := Prod.mk.inj hlast
  rw [← hstate]
  have hreply' : (t.look ⟨scope.interp, scope.ns, words⟩).1 >>= readAs kind =
      .error (.rejected r) := hreply
  cases hlook : (t.look ⟨scope.interp, scope.ns, words⟩).1 with
  | ok value =>
      obtain ⟨a, rfl⟩ := eq_given_of_answer hputs (answer_of_look hlook)
      rw [hlook] at hreply'
      cases (readAs_given a).symm.trans hreply'
  | error e =>
      rw [hlook] at hreply'
      obtain rfl : e = .rejected r := Except.error.inj hreply'
      cases fault_of_look hlook with
      | rejected message => exact List.getLast?_concat

theorem concurs_of_consults (hd : d.Consults scope Lookup.Puts) (w : World)
    (h : OkOrRefused (fun _ => True) (d.run host w).outcome) :
    Concurs scope (d.run host w) (d.run linkedHost (linked w)) := by
  have hstep : ∀ request t,
      (∃ kind words, Lookup.Puts kind words ∧ request = scope.looking kind words) →
        linkedHost request (linked t) =
          ((host request t).1.mapError (retold scope.interp), linked (host request t).2) := by
    rintro request t ⟨kind, words, hputs, rfl⟩
    exact linkedHost_looking scope hputs t
  obtain ⟨houtcome, hrequests, hstate⟩ := hd.relays.run_retold hstep w
  refine ⟨hrequests, hstate, ?_, ?_⟩
  · intro a ha
    rw [houtcome, ha]
    rfl
  · intro e he
    rcases h with ⟨a, ha, -⟩ | ⟨r, hr⟩
    · cases ha.symm.trans he
    · obtain rfl : e = .rejected r := Except.error.inj (he.symm.trans hr)
      refine ⟨r, rfl, getLast?_calls_of_refused hd w hr, ?_⟩
      rw [houtcome, hr]
      rfl

theorem concurs_of_inquires (hd : d.Inquires scope Lookup.Puts) (w : World)
    (h : OkOrRefused (fun _ => True) (d.run host w).outcome) :
    Concurs scope (d.run host w) (d.run linkedHost (linked w)) := by
  cases hd with
  | consults hd => exact concurs_of_consults hd w h
  | @rescues d remark answer _ hd =>
      simp only [run_rescue_remark] at h ⊢
      -- rescuing hides refusals only, so the dialogue underneath is at worst refused as well
      have hunder : OkOrRefused (fun _ => True) (d.run host w).outcome := by
        split at h
        · next r hr => exact .inr ⟨r, hr⟩
        · exact h
      have hconcurs := concurs_of_consults hd w hunder
      rcases hunder with ⟨a, ha, -⟩ | ⟨r, hr⟩
      · simp only [ha, hconcurs.done a ha]
        exact hconcurs
      · obtain ⟨r', -, -, hthrough⟩ := hconcurs.refused _ hr
        simp only [hr, hthrough]
        refine ⟨?_, hconcurs.state, fun _ h => h, nofun⟩
        simp only [List.filterMap_append, hconcurs.requests]
        rfl

/-- Whatever is looked up or completed in a world, in whatever scope, the world behind a binding
concurs with the world itself. Completing is never refused, so that the edits are the same. -/
theorem linked_run_concurs (w : World) (scope : Scope) :
    (∀ inquiry : Inquiry, Concurs scope ((inquiry.dialogue scope).run host w)
      ((inquiry.dialogue scope).run linkedHost (linked w))) ∧
    ∀ (completer : Completer) (text : String), ∃ edits,
      ((completer.edits scope text).run host w).outcome = .ok edits ∧
        ((completer.edits scope text).run linkedHost (linked w)).outcome = .ok edits := by
  have hrefused : ∀ inquiry : Inquiry,
      OkOrRefused (fun _ => True) ((inquiry.dialogue scope).run host w).outcome := by
    intro inquiry
    rw [run_outcome (inquiry.inquires scope).asks]
    exact okOrRefused_inquiry w scope inquiry
  have hconcurs : ∀ inquiry : Inquiry, Concurs scope ((inquiry.dialogue scope).run host w)
      ((inquiry.dialogue scope).run linkedHost (linked w)) :=
    fun inquiry => concurs_of_inquires (inquiry.inquires scope) w (hrefused inquiry)
  refine ⟨hconcurs, ?_⟩
  intro completer text
  rcases hrefused (.edits completer text) with ⟨edits, hedits, -⟩ | ⟨r, hr⟩
  · exact ⟨edits, hedits, (hconcurs (.edits completer text)).done edits hedits⟩
  · have hfailed := (Completer.outcome_run_edits_eq_error_iff scope host completer text w _).mp hr
    exact absurd rfl (hfailed.1 r)

end World

end TabCompletion
