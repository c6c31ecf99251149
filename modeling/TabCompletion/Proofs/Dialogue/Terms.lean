import TabCompletion.Proofs.Dialogue.Exchanges

/-! # The terms of a dialogue

A dialogue relies on its host for the replies and answers for its requests. Both are judged step by
step, each request by the events before it, and carry over to every run. -/

namespace TabCompletion

variable {α β σ : Type}

namespace Scope

variable (scope : Scope) (kind : Kind) (words : List String)

/-- What a query leaves behind before its request is made. -/
def noting : Event :=
  .told (.noted (.asking kind ⟨scope.interp, scope.ns, words⟩))

/-- What a query leaves behind. -/
def consulting (reply : Except Failure kind.Answer) : List Event :=
  [scope.noting kind words, .asked (scope.looking kind words) reply]

@[simp]
theorem exchanges_noting (events : List Event) :
    Event.exchanges (scope.noting kind words :: events) = Event.exchanges events :=
  rfl

@[simp]
theorem exchanges_consulting (reply : Except Failure kind.Answer) :
    Event.exchanges (scope.consulting kind words reply) = [⟨scope.looking kind words, reply⟩] :=
  rfl

end Scope

/-- A query comes to what it is answered. -/
theorem Dialogue.run_query (host : Host σ) (scope : Scope) (kind : Kind) (words : List String)
    (s : σ) :
    (scope.query kind words).run host s =
      ⟨(host (scope.looking kind words) s).1,
        scope.consulting kind words (host (scope.looking kind words) s).1,
        (host (scope.looking kind words) s).2⟩ := by
  simp only [Scope.query, Dialogue.query, Dialogue.request, Dialogue.run, Scope.consulting]
  cases (host (scope.looking kind words) s).1 <;> rfl

theorem Dialogue.run_query_bind {host : Host σ} {scope : Scope} {kind : Kind} {words : List String}
    {s : σ} {answer : kind.Answer} (h : (host (scope.looking kind words) s).1 = .ok answer)
    (f : kind.Answer → Dialogue α) :
    (scope.query kind words >>= f).run host s =
      let rest := (f answer).run host (host (scope.looking kind words) s).2
      { rest with events := scope.consulting kind words (.ok answer) ++ rest.events } := by
  rw [run_bind, run_query, h]

/-! ## Terms -/

/-- What passes between a dialogue and its host: the replies that the host gives, and the requests
that the dialogue makes after some events. -/
structure Terms where
  trusts : (request : Request) → Except Failure request.Answer → Prop
  allows : List Event → Request → Prop

/-- A host whose replies are those of the terms, whatever its state. -/
def Host.Honours (host : Host σ) (terms : Terms) : Prop :=
  ∀ request s, terms.trusts request (host request s).1

namespace Dialogue

variable {terms : Terms} {past : List Event}

/-- After some events, and as long as the replies are those of the terms, a dialogue makes requests
that the terms allow, and ends in an outcome that has a property, as do all the events. -/
def Keeps (terms : Terms) : Dialogue α → List Event → (List Event → Except Failure α → Prop) → Prop
  | done a, past, post => post past (.ok a)
  | fail e, past, post => post past (.error e)
  | tell output next, past, post => next.Keeps terms (past ++ [.told output]) post
  | ask request next, past, post =>
    terms.allows past request ∧
      ∀ reply, terms.trusts request reply →
        (next reply).Keeps terms (past ++ [.asked request reply]) post

theorem Keeps.bind {d : Dialogue α} {f : α → Dialogue β}
    {mid : List Event → Except Failure α → Prop} {post : List Event → Except Failure β → Prop}
    (hd : d.Keeps terms past mid)
    (hok : ∀ events a, mid events (.ok a) → (f a).Keeps terms events post)
    (herror : ∀ events e, mid events (.error e) → post events (.error e)) :
    (d >>= f).Keeps terms past post := by
  change (d.bind f).Keeps terms past post
  induction d generalizing past with
  | done a => exact hok _ _ hd
  | fail e => exact herror _ _ hd
  | tell output next ih => exact ih hd
  | ask request next ih => exact ⟨hd.1, fun reply htrusted => ih reply (hd.2 reply htrusted)⟩

/-! ## Queries -/

/-- A query about a scope is in order if its request is, and goes on with what it is answered. -/
theorem keeps_query_bind {scope : Scope} {kind : Kind} {words : List String}
    {f : kind.Answer → Dialogue α} {post : List Event → Except Failure α → Prop}
    (hallowed : terms.allows (past ++ [scope.noting kind words]) (scope.looking kind words))
    (hok : ∀ answer, terms.trusts (scope.looking kind words) (.ok answer) →
      (f answer).Keeps terms (past ++ scope.consulting kind words (.ok answer)) post)
    (herror : ∀ e, terms.trusts (scope.looking kind words) (.error e) →
      post (past ++ scope.consulting kind words (.error e)) (.error e)) :
    (scope.query kind words >>= f).Keeps terms past post := by
  refine ⟨hallowed, ?_⟩
  intro reply htrusted
  rw [List.append_assoc]
  cases reply with
  | ok answer => exact hok answer htrusted
  | error e => exact herror e htrusted

theorem keeps_query {scope : Scope} {kind : Kind} {words : List String}
    {post : List Event → Except Failure kind.Answer → Prop}
    (hallowed : terms.allows (past ++ [scope.noting kind words]) (scope.looking kind words))
    (hreply : ∀ reply, terms.trusts (scope.looking kind words) reply →
      post (past ++ scope.consulting kind words reply) reply) :
    (scope.query kind words).Keeps terms past post := by
  rw [← bind_pure (scope.query kind words)]
  exact keeps_query_bind hallowed (fun answer => hreply (.ok answer)) fun e => hreply (.error e)

/-! ## Runs -/

/-- A run with a host that honours the terms keeps to them: every request is allowed after the
events before it, and the outcome has the property. -/
theorem Keeps.run {d : Dialogue α} {post : List Event → Except Failure α → Prop}
    (h : d.Keeps terms past post) {host : Host σ} (hhost : host.Honours terms) (s : σ) :
    post (past ++ (d.run host s).events) (d.run host s).outcome ∧
      ∀ front request reply rest, (d.run host s).events = front ++ .asked request reply :: rest →
        terms.allows (past ++ front) request := by
  induction d generalizing past s with
  | done a => exact ⟨by simpa [Dialogue.run, Keeps] using h, by simp [Dialogue.run]⟩
  | fail e => exact ⟨by simpa [Dialogue.run, Keeps] using h, by simp [Dialogue.run]⟩
  | tell output next ih =>
      obtain ⟨hpost, hallowed⟩ := ih h s
      refine ⟨by simpa [Dialogue.run] using hpost, ?_⟩
      intro front request reply rest heq
      cases front with
      | nil => simp [Dialogue.run] at heq
      | cons event front =>
          obtain ⟨rfl, htail⟩ := List.cons.inj heq
          simpa using hallowed front request reply rest htail
  | ask request next ih =>
      obtain ⟨hpost, hallowed⟩ := ih _ (h.2 _ (hhost request s)) (host request s).2
      refine ⟨by simpa [Dialogue.run] using hpost, ?_⟩
      intro front request' reply rest heq
      cases front with
      | nil =>
          obtain ⟨hevent, -⟩ := List.cons.inj heq
          cases hevent
          simpa using h.1
      | cons event front =>
          obtain ⟨rfl, htail⟩ := List.cons.inj heq
          simpa using hallowed front request' reply rest htail

end Dialogue

end TabCompletion
