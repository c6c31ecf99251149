import TabCompletion.Proofs.Binding.Plain
import TabCompletion.Proofs.Lookup.Relaying

/-! # What becomes of the failures of a binding

The bridge tells a failure of the binding as the refusal of a command, but for two ways in which it
gets past. -/

namespace TabCompletion

variable {α β : Type}

namespace Bridge

/-! ## Replies before failures are told -/

/-- The words of the command that a request becomes. -/
def sent : Request → List Value
  | .query _ call =>
    [.text "::interp", .text "eval", .text call.interp, .list (queryScript call.ns call.words)]
  | .evaluate interp ns script =>
    [.text "::interp", .text "eval", .text interp,
      .list [.text "::namespace", .text "eval", .text ns, .text script]]
  | .isComplete script => [.text "::info", .text "complete", .text script]
  | .source path interp =>
    [.text "::interp", .text "eval", .text interp, .list [.text "::source", .text path]]
  | .require package interp =>
    [.text "::interp", .text "eval", .text interp,
      .list [.text "::package", .text "require", .text package]]

/-- Whether richer values are wished while a request is answered. -/
def wishes : Request → Linked β → Bool
  | .isComplete _, link => link.richValues
  | _, _ => false

variable (binding : Binding β)

/-- What the binding returns for the command of a request. -/
def returned (request : Request) (link : Linked β) : Except Failure Value :=
  (binding.call (wishes request link) (sent request) link.under).1

/-- A result as a request wants it read, by the rules of the binding alone. -/
def read : (request : Request) → Value → Except Failure request.Answer
  | .query .names _, result => (·.map Value.asText) <$> binding.items result
  | .query .flag _, result => binding.truth result
  | .query .value _, result => .ok result.asText
  | .evaluate .., result => .ok result.asText
  | .isComplete _, result => binding.truth result
  | .source .., result => .ok result
  | .require .., result => .ok result

/-- The reply to a request with the failures of the binding left as they are. -/
def bare (request : Request) (link : Linked β) : Except Failure request.Answer :=
  returned binding request link >>= read binding request

/-- The failures that get past the bridge: a result that is no list where names are wanted, and
whatever goes wrong when a script is asked to be finished. -/
def Exposed : Request → Linked β → Prop
  | .query .names call, link => ∃ result e,
    returned binding (.query .names call) link = .ok result ∧ binding.items result = .error e
  | .isComplete script, link => ∃ e, bare binding (.isComplete script) link = .error e
  | _, _ => False

/-! ## Telling failures -/

/-- A reply that hands a value on and makes a failure the cause of a refusal. -/
def Told (bare reply : Except Failure α) : Prop :=
  match bare with
  | .ok a => reply = .ok a
  | .error e => ∃ r, reply = .error (.rejected r) ∧ r.cause = some e.message

theorem told_refusal {result : Except Failure α}
    (h : ∀ e, result = .error e → ∃ message, e = .binding message) (words : List String)
    (interp : String) : Told result (result.mapError (refusal words interp)) := by
  cases result with
  | ok a => rfl
  | error e =>
      obtain ⟨message, rfl⟩ := h e rfl
      exact ⟨_, rfl, rfl⟩

theorem Told.bind {bare reply : Except Failure α} {f g : α → Except Failure β}
    (h : Told bare reply) (hf : ∀ a, bare = .ok a → Told (f a) (g a)) :
    Told (bare >>= f) (reply >>= g) := by
  cases bare with
  | ok a =>
      obtain rfl : reply = .ok a := h
      exact hf a rfl
  | error e =>
      obtain ⟨r, rfl, hcause⟩ := h
      exact ⟨r, rfl, hcause⟩

theorem Told.map {bare reply : Except Failure α} (h : Told bare reply) (f : α → β) :
    Told (bare >>= fun a => .ok (f a)) (reply.map f) := by
  cases bare with
  | ok a =>
      obtain rfl : reply = .ok a := h
      rfl
  | error e =>
      obtain ⟨r, rfl, hcause⟩ := h
      exact ⟨r, rfl, hcause⟩

/-! ## Single requests -/

variable {binding} {link : Linked β}

theorem told_returned (h : binding.FailsPlainly) (request : Request) (words : List String)
    (interp : String) :
    Told (returned binding request link)
      ((returned binding request link).mapError (refusal words interp)) :=
  told_refusal (h.call _ _ _) words interp

theorem told_flag (h : binding.FailsPlainly) (call : Call) (result : Value) :
    Told (binding.truth result) (readAs binding call .flag result) := by
  cases htruth : binding.truth result with
  | ok b =>
      simp only [readAs, htruth]
      rfl
  | error e =>
      obtain ⟨message, rfl⟩ := h.truth result e htruth
      simp only [readAs, htruth]
      exact ⟨_, rfl, rfl⟩

theorem told_query (h : binding.FailsPlainly) {kind : Kind} {call : Call}
    (hexposed : ¬ Exposed binding (.query kind call) link) :
    Told (bare binding (.query kind call) link) (host binding (.query kind call) link).1 := by
  refine (told_returned h (.query kind call) call.words call.interp).bind ?_
  intro result hresult
  cases kind with
  | names =>
      cases hitems : binding.items result with
      | ok items =>
          change Told ((·.map Value.asText) <$> binding.items result)
            ((·.map Value.asText) <$> binding.items result)
          rw [hitems]
          rfl
      | error e => exact absurd ⟨result, e, hresult, hitems⟩ hexposed
  | flag => exact told_flag h call result
  | value => rfl

/-- A failure that does not get past is told. -/
theorem told_of_not_exposed (h : binding.FailsPlainly) {request : Request}
    (hexposed : ¬ Exposed binding request link) :
    Told (bare binding request link) (host binding request link).1 := by
  cases request with
  | query kind call => exact told_query h hexposed
  | evaluate interp ns script =>
      exact (told_returned h (.evaluate interp ns script) [script] interp).map Value.asText
  | isComplete script =>
      cases hbare : bare binding (.isComplete script) link with
      | ok b => exact hbare
      | error e => exact absurd ⟨e, hbare⟩ hexposed
  | source path interp =>
      have hbare : bare binding (.source path interp) link =
          returned binding (.source path interp) link := bind_pure _
      rw [hbare]
      exact told_returned h (.source path interp) ["source", path] interp
  | require package interp =>
      have hbare : bare binding (.require package interp) link =
          returned binding (.require package interp) link := bind_pure _
      rw [hbare]
      exact told_returned h (.require package interp) ["package", "require", package] interp

theorem read_eq_error (h : binding.FailsPlainly) {request : Request} {result : Value} {e : Failure}
    (hread : read binding request result = .error e) : ∃ message, e = .binding message := by
  cases request with
  | query kind call =>
      cases kind with
      | names =>
          cases hitems : binding.items result with
          | ok items =>
              change (·.map Value.asText) <$> binding.items result = _ at hread
              rw [hitems] at hread
              cases hread
          | error e' =>
              change (·.map Value.asText) <$> binding.items result = _ at hread
              rw [hitems] at hread
              cases hread
              exact h.items result e hitems
      | flag => exact h.truth result e hread
      | value => cases hread
  | isComplete script => exact h.truth result e hread
  | evaluate interp ns script => cases hread
  | source path interp => cases hread
  | require package interp => cases hread

theorem bare_eq_error (h : binding.FailsPlainly) {request : Request} {e : Failure}
    (hbare : bare binding request link = .error e) : ∃ message, e = .binding message := by
  unfold bare at hbare
  cases hreturned : returned binding request link with
  | ok result =>
      rw [hreturned] at hbare
      exact read_eq_error h hbare
  | error e' =>
      rw [hreturned] at hbare
      cases hbare
      exact h.call _ _ _ e hreturned

/-- A failure that gets past reaches the caller as it is. -/
theorem reply_of_exposed {request : Request} (hexposed : Exposed binding request link) :
    ∃ e, bare binding request link = .error e ∧ (host binding request link).1 = .error e := by
  cases request with
  | query kind call =>
      cases kind with
      | names =>
          obtain ⟨result, e, hreturned, hitems⟩ := hexposed
          have hnames : (·.map Value.asText) <$> binding.items result = .error e := by
            rw [hitems]
            rfl
          refine ⟨e, ?_, ?_⟩
          · rw [bare, hreturned]
            exact hnames
          · change (returned binding (.query .names call) link).mapError
                (refusal call.words call.interp) >>= readAs binding call .names = .error e
            rw [hreturned]
            exact hnames
      | flag => exact hexposed.elim
      | value => exact hexposed.elim
  | isComplete script =>
      obtain ⟨e, hbare⟩ := hexposed
      exact ⟨e, hbare, hbare⟩
  | evaluate interp ns script => exact hexposed.elim
  | source path interp => exact hexposed.elim
  | require package interp => exact hexposed.elim

/-- What gets past is a failure of the binding, and no refusal. -/
theorem binding_of_exposed (h : binding.FailsPlainly) {request : Request}
    (hexposed : Exposed binding request link) :
    ∃ message, bare binding request link = .error (.binding message) ∧
      (host binding request link).1 = .error (.binding message) := by
  obtain ⟨e, hbare, hreply⟩ := reply_of_exposed hexposed
  obtain ⟨message, rfl⟩ := bare_eq_error h hbare
  exact ⟨message, hbare, hreply⟩

theorem Told.eq_rejected {bare reply : Except Failure α} {e : Failure} (h : Told bare reply)
    (hreply : reply = .error e) : ∃ r, e = .rejected r := by
  subst hreply
  cases bare with
  | ok a => cases h
  | error e' =>
      obtain ⟨r, hr, -⟩ := h
      cases hr
      exact ⟨r, rfl⟩

/-! ## Runs -/

/-- A failure that gets past the bridge gets past the completer, which rescues refusals only. -/
theorem outcome_run_edits_of_exposed (h : binding.FailsPlainly) {completer : Completer}
    {scope : Scope} {text : String}
    (hexposed : ∃ visit ∈ (completer.edits scope text).visits (host binding) link,
      Exposed binding visit.1 visit.2) :
    ∃ message, ((completer.edits scope text).run (host binding) link).outcome =
      .error (.binding message) := by
  obtain ⟨visit, hvisit, hexposed⟩ := hexposed
  obtain ⟨message, -, hreply⟩ := binding_of_exposed h hexposed
  refine ⟨message, ?_⟩
  rw [Completer.outcome_run_edits_eq_error_iff]
  exact ⟨fun r => nofun, visit, hvisit, hreply⟩

theorem outcome_run_edits_of_not_exposed (h : binding.FailsPlainly) {completer : Completer}
    {scope : Scope} {text : String}
    (hnone : ∀ visit ∈ (completer.edits scope text).visits (host binding) link,
      ¬ Exposed binding visit.1 visit.2) :
    ∃ found, ((completer.edits scope text).run (host binding) link).outcome = .ok found := by
  cases hrun : ((completer.edits scope text).run (host binding) link).outcome with
  | ok found => exact ⟨found, rfl⟩
  | error e =>
      rw [Completer.outcome_run_edits_eq_error_iff] at hrun
      obtain ⟨hrejected, visit, hvisit, hreply⟩ := hrun
      obtain ⟨r, rfl⟩ := (told_of_not_exposed h (hnone visit hvisit)).eq_rejected hreply
      exact absurd rfl (hrejected r)

/-- Over a binding whose failures are its own, every call tells the failure underneath as the cause
of a refusal, except where it gets past; there it is the failure of the binding itself that reaches
the caller. Completing fails exactly where one of its queries lets a failure past. -/
theorem told_unless_exposed {binding : Binding β} (hbinding : binding.FailsPlainly)
    (link : Linked β) :
    (∀ requests : List Request, ∀ visit ∈ (host binding).visits requests link,
      (¬ Exposed binding visit.1 visit.2 →
        Told (bare binding visit.1 visit.2) (host binding visit.1 visit.2).1) ∧
      (Exposed binding visit.1 visit.2 →
        ∃ message, bare binding visit.1 visit.2 = .error (.binding message) ∧
          (host binding visit.1 visit.2).1 = .error (.binding message))) ∧
    ∀ (completer : Completer) (scope : Scope) (text : String),
      let edits := completer.edits scope text
      ((∃ visit ∈ edits.visits (host binding) link, Exposed binding visit.1 visit.2) →
        ∃ message, (edits.run (host binding) link).outcome = .error (.binding message)) ∧
      ((∀ visit ∈ edits.visits (host binding) link, ¬ Exposed binding visit.1 visit.2) →
        ∃ found, (edits.run (host binding) link).outcome = .ok found) := by
  constructor
  · intro requests visit _
    exact ⟨told_of_not_exposed hbinding, binding_of_exposed hbinding⟩
  · intro completer scope text
    exact ⟨outcome_run_edits_of_exposed hbinding, outcome_run_edits_of_not_exposed hbinding⟩

/-- A binding that replies with a text, and fails when it is called again. -/
def replying (text message : String) : Linked ScriptedBinding :=
  ⟨⟨[.ok (.text text), .error message], []⟩, true⟩

theorem told_unless_exposed_replying :
    (∃ found, (((Completer.of []).edits .main "pu").run ScriptedBinding.host
      (replying "puts pwd" "gone")).outcome = .ok found) ∧
    (∃ message, (((Completer.of []).edits .main "pu").run ScriptedBinding.host
      (replying "\x7b" "gone")).outcome = .error (.binding message)) ∧
    ∃ r, (ScriptedBinding.host (.evaluate "" "::" "set x")
        (ScriptedBinding.host (.require "Tk" "") (replying "8.6" "gone")).2).1 =
      .error (.rejected r) ∧ r.cause = some "gone" := by
  have hplain := ScriptedBinding.failsPlainly
  refine ⟨?_, ?_, ?_⟩
  · refine ((told_unless_exposed hplain (replying "puts pwd" "gone")).2
      (Completer.of []) .main "pu").2 ?_
    intro visit hvisit
    obtain rfl := List.mem_singleton.mp hvisit
    rintro ⟨result, e, hreturned, hitems⟩
    cases hreturned
    cases hitems
  · refine ((told_unless_exposed hplain (replying "\x7b" "gone")).2
      (Completer.of []) .main "pu").1 ?_
    exact ⟨_, .head _, _, _, rfl, rfl⟩
  · exact ((told_unless_exposed hplain (replying "8.6" "gone")).1
      [.require "Tk" "", .evaluate "" "::" "set x"] _ (.tail _ (.head _))).1 id

/-- A result with an open brace gets past where names are wanted, and past the completer too. -/
theorem not_forall_told :
    (¬ ∀ (link : Linked ScriptedBinding) (request : Request),
      Told (bare ScriptedBinding.binding request link) (ScriptedBinding.host request link).1) ∧
    ¬ ∀ (link : Linked ScriptedBinding) (completer : Completer) (scope : Scope) (text : String),
      ∃ found,
        ((completer.edits scope text).run ScriptedBinding.host link).outcome = .ok found := by
  constructor
  · intro htold
    have hreply : (ScriptedBinding.host (.query .names ⟨"", "::", ["::info", "commands", "*"]⟩)
        (replying "\x7b" "gone")).1 = .error (.binding "unmatched open brace in list") := by rfl
    obtain ⟨r, hr⟩ := (htold _ _).eq_rejected hreply
    cases hr
  · intro hcompleting
    obtain ⟨found, hfound⟩ := hcompleting (replying "\x7b" "gone") (Completer.of []) .main "pu"
    cases hfound

end Bridge

end TabCompletion
