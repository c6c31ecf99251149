import TabCompletion.Receiver

/-! # Dialogues under fixed replies

A host that remembers nothing answers every request by one table of replies. What comes of a
dialogue can then be read off the table, step by step; and a host with a state answers alike as long
as the requests made leave alone what its replies depend on. -/

namespace TabCompletion

/-- A reply to every request. -/
abbrev Replies : Type :=
  (r : Request) → Except Failure r.Answer

namespace Dialogue

variable {α β σ : Type}

/-! ## Outcomes -/

/-- What comes of a dialogue whose requests are answered by a table. -/
def outcome (replies : Replies) : Dialogue α → Except Failure α
  | done a => .ok a
  | fail e => .error e
  | tell _ next => next.outcome replies
  | ask request next => (next (replies request)).outcome replies

@[simp]
theorem outcome_pure (replies : Replies) (a : α) :
    (pure a : Dialogue α).outcome replies = .ok a :=
  rfl

/-- Outcomes are put together as the dialogues are. -/
theorem outcome_bind (replies : Replies) (d : Dialogue α) (f : α → Dialogue β) :
    (d >>= f).outcome replies = d.outcome replies >>= fun a => (f a).outcome replies := by
  change (d.bind f).outcome replies = _
  induction d with
  | done a => rfl
  | fail e => rfl
  | tell output next ih => exact ih
  | ask request next ih => exact ih (replies request)

theorem outcome_bind_ok {replies : Replies} {d : Dialogue α} {a : α}
    (h : d.outcome replies = .ok a) (f : α → Dialogue β) :
    (d >>= f).outcome replies = (f a).outcome replies := by
  rw [outcome_bind, h]
  rfl

theorem outcome_bind_error {replies : Replies} {d : Dialogue α} {e : Failure}
    (h : d.outcome replies = .error e) (f : α → Dialogue β) :
    (d >>= f).outcome replies = .error e := by
  rw [outcome_bind, h]
  rfl

/-- A sequence comes to something only if both its dialogues do. -/
theorem exists_of_outcome_bind {replies : Replies} {d : Dialogue α} {f : α → Dialogue β} {b : β}
    (h : (d >>= f).outcome replies = .ok b) :
    ∃ a, d.outcome replies = .ok a ∧ (f a).outcome replies = .ok b := by
  rw [outcome_bind] at h
  cases hfirst : d.outcome replies with
  | ok a =>
      rw [hfirst] at h
      exact ⟨a, rfl, h⟩
  | error e =>
      rw [hfirst] at h
      cases h

theorem outcome_map (replies : Replies) (f : α → β) (d : Dialogue α) :
    (f <$> d).outcome replies = (d.outcome replies).map f := by
  rw [← bind_pure_comp, outcome_bind]
  cases d.outcome replies <;> rfl

theorem outcome_map_eq_ok_iff {replies : Replies} {f : α → β} {d : Dialogue α} {b : β} :
    (f <$> d).outcome replies = .ok b ↔ ∃ a, d.outcome replies = .ok a ∧ f a = b := by
  rw [outcome_map]
  cases d.outcome replies <;> simp [Except.map]

@[simp]
theorem outcome_request (replies : Replies) (r : Request) :
    (request r).outcome replies = replies r := by
  change (ofExcept (replies r)).outcome replies = replies r
  cases replies r <;> rfl

/-- Only a refusal is rescued; any other outcome stays. -/
theorem outcome_rescue (replies : Replies) (d : Dialogue α) (handler : Rejection → Dialogue α) :
    (d.rescue handler).outcome replies =
      match d.outcome replies with
      | .error (.rejected r) => (handler r).outcome replies
      | other => other := by
  induction d with
  | done a => rfl
  | fail e => cases e <;> rfl
  | tell output next ih => exact ih
  | ask request next ih => exact ih (replies request)

/-! ## What is asked -/

/-- Every request that a dialogue may make, whatever the replies, has a property. -/
inductive Asks (P : Request → Prop) : Dialogue α → Prop
  | done (a : α) : Asks P (done a)
  | fail (e : Failure) : Asks P (fail e)
  | tell (output : Output) {next : Dialogue α} : Asks P next → Asks P (tell output next)
  | ask (request : Request) {next : Except Failure request.Answer → Dialogue α} :
      P request → (∀ reply, Asks P (next reply)) → Asks P (ask request next)

theorem Asks.bind {P : Request → Prop} {d : Dialogue α} {f : α → Dialogue β} (hd : d.Asks P)
    (hf : ∀ a, (f a).Asks P) : (d >>= f).Asks P := by
  change (d.bind f).Asks P
  induction hd with
  | done a => exact hf a
  | fail e => exact .fail e
  | tell output _ ih => exact .tell output ih
  | ask request h _ ih => exact .ask request h ih

theorem Asks.rescue {P : Request → Prop} {d : Dialogue α} {handler : Rejection → Dialogue α}
    (hd : d.Asks P) (hhandler : ∀ r, (handler r).Asks P) : (d.rescue handler).Asks P := by
  induction hd with
  | done a => exact .done a
  | fail e =>
      cases e with
      | rejected r => exact hhandler r
      | _ => exact .fail _
  | tell output _ ih => exact .tell output ih
  | ask request h _ ih => exact .ask request h ih

/-! ## Hosts with a state -/

/-- A host whose replies to some requests are those of a table in all states of a kind, and which
these requests leave in a state of that kind, gives a dialogue of such requests the outcome that the
table gives it. -/
theorem run_outcome_of_replies {host : Host σ} {replies : Replies} {P : Request → Prop}
    {Inv : σ → Prop}
    (hstep : ∀ r s, P r → Inv s → (host r s).1 = replies r ∧ Inv (host r s).2)
    {d : Dialogue α} (hd : d.Asks P) {s : σ} (hs : Inv s) :
    (d.run host s).outcome = d.outcome replies ∧ Inv (d.run host s).state := by
  induction hd generalizing s with
  | done a => exact ⟨rfl, hs⟩
  | fail e => exact ⟨rfl, hs⟩
  | tell output _ ih => exact ih hs
  | ask request h _ ih =>
      obtain ⟨hreply, hnext⟩ := hstep request s h hs
      simp only [run, outcome, ← hreply]
      exact ih _ hnext

/-- Such a host also tells and is asked the same in all states of that kind. -/
theorem events_run_eq_of_replies {host : Host σ} {replies : Replies} {P : Request → Prop}
    {Inv : σ → Prop}
    (hstep : ∀ r s, P r → Inv s → (host r s).1 = replies r ∧ Inv (host r s).2)
    {d : Dialogue α} (hd : d.Asks P) {s t : σ} (hs : Inv s) (ht : Inv t) :
    (d.run host s).events = (d.run host t).events := by
  induction hd generalizing s t with
  | done a => rfl
  | fail e => rfl
  | tell output _ ih => exact congrArg (Event.told output :: ·) (ih hs ht)
  | ask request h _ ih =>
      obtain ⟨hreply, hnext⟩ := hstep request s h hs
      obtain ⟨hreply', hnext'⟩ := hstep request t h ht
      simp only [run, hreply, hreply']
      exact congrArg (Event.asked request (replies request) :: ·) (ih _ hnext hnext')

end Dialogue

/-! ## Queries about a scope -/

/-- A request that looks, in the interpreter and the namespace of a scope. -/
def Scope.Covers (scope : Scope) : Request → Prop
  | .query _ call => call.interp = scope.interp ∧ call.ns = scope.ns
  | _ => False

/-- The reply that a table holds for a command put about a scope. -/
def Replies.to (replies : Replies) (scope : Scope) (kind : Kind) (words : List String) :
    Except Failure kind.Answer :=
  replies (.query kind ⟨scope.interp, scope.ns, words⟩)

@[simp]
theorem Dialogue.outcome_query (replies : Replies) (scope : Scope) (kind : Kind)
    (words : List String) :
    (scope.query kind words).outcome replies = replies.to scope kind words :=
  outcome_request replies _

theorem Dialogue.outcome_query_bind {α : Type} {replies : Replies} {scope : Scope} {kind : Kind}
    {words : List String} {a : kind.Answer} (h : replies.to scope kind words = .ok a)
    (f : kind.Answer → Dialogue α) :
    (scope.query kind words >>= f).outcome replies = (f a).outcome replies :=
  outcome_bind_ok ((outcome_query replies scope kind words).trans h) f

end TabCompletion
