import TabCompletion.Proofs.Dialogue.Replies

/-! # Dialogues that hand failures on

A dialogue that relays has no failures of its own: it fails where a reply fails, and nothing is
asked after that. Which failures it can end with is then a matter of its host alone. -/

namespace TabCompletion

variable {α β σ : Type}

/-! ## Visits -/

/-- Requests made one after the other, whatever the replies, each with the state of the host in
which it is made. -/
def Host.visits (host : Host σ) : List Request → σ → List (Request × σ)
  | [], _ => []
  | request :: rest, s => (request, s) :: host.visits rest (host request s).2

namespace Dialogue

/-- The requests that a dialogue makes, each with the state of the host in which it is made. -/
def visits (host : Host σ) : Dialogue α → σ → List (Request × σ)
  | done _, _ => []
  | fail _, _ => []
  | tell _ next, s => next.visits host s
  | ask request next, s =>
    (request, s) :: (next (host request s).1).visits host (host request s).2

/-- Rescuing makes no requests beyond those of the handler. -/
theorem visits_rescue {host : Host σ} {handler : Rejection → Dialogue α}
    (h : ∀ r s, (handler r).visits host s = []) (d : Dialogue α) (s : σ) :
    (d.rescue handler).visits host s = d.visits host s := by
  induction d generalizing s with
  | done a => rfl
  | fail e =>
      cases e with
      | rejected r => exact h r s
      | _ => rfl
  | tell output next ih => exact ih s
  | ask request next ih => exact congrArg _ (ih _ _)

/-- Rescuing goes on with the handler, in the state in which the refused dialogue left the host. -/
theorem run_rescue (host : Host σ) (d : Dialogue α) (handler : Rejection → Dialogue α) (s : σ) :
    (d.rescue handler).run host s =
      match (d.run host s).outcome with
      | .error (.rejected r) =>
        let rest := (handler r).run host (d.run host s).state
        { rest with events := (d.run host s).events ++ rest.events }
      | _ => d.run host s := by
  induction d generalizing s with
  | done a => rfl
  | fail e => cases e <;> rfl
  | tell output next ih =>
      simp only [rescue, run, ih]
      split <;> simp_all
  | ask request next ih =>
      simp only [rescue, run, ih]
      split <;> simp_all

theorem outcome_run_rescue (host : Host σ) (d : Dialogue α) (handler : Rejection → Dialogue α)
    (s : σ) :
    ((d.rescue handler).run host s).outcome =
      match (d.run host s).outcome with
      | .error (.rejected r) => ((handler r).run host (d.run host s).state).outcome
      | other => other := by
  rw [run_rescue]
  split <;> rfl

/-- Where rescuing always works, the failures that are left are those that are no refusals. -/
theorem outcome_run_rescue_eq_error_iff {host : Host σ} {handler : Rejection → Dialogue α}
    (h : ∀ r s, ∃ a, ((handler r).run host s).outcome = .ok a) (d : Dialogue α) (s : σ)
    (e : Failure) :
    ((d.rescue handler).run host s).outcome = .error e ↔
      (∀ r, e ≠ .rejected r) ∧ (d.run host s).outcome = .error e := by
  rw [outcome_run_rescue]
  cases (d.run host s).outcome with
  | ok a => simp
  | error e' =>
      cases e' with
      | rejected r =>
          obtain ⟨a, ha⟩ := h r (d.run host s).state
          simp only [ha, reduceCtorEq, Except.error.injEq, false_iff, not_and]
          intro hne heq
          exact hne r heq.symm
      | _ =>
          constructor
          · rintro ⟨⟩
            exact ⟨fun r => nofun, rfl⟩
          · exact And.right

/-! ## Relaying -/

/-- All requests of a dialogue have a property, and it fails exactly where a reply fails. -/
inductive Relays (P : Request → Prop) : Dialogue α → Prop
  | done (a : α) : Relays P (done a)
  | tell (output : Output) {next : Dialogue α} : Relays P next → Relays P (tell output next)
  | ask (request : Request) {next : Except Failure request.Answer → Dialogue α} :
      P request → (∀ e, next (.error e) = fail e) → (∀ a, Relays P (next (.ok a))) →
        Relays P (ask request next)

variable {P : Request → Prop}

theorem relays_pure (P : Request → Prop) (a : α) : (pure a : Dialogue α).Relays P :=
  .done a

theorem relays_request {r : Request} (h : P r) : (request r).Relays P :=
  .ask r h (fun _ => rfl) fun a => .done a

theorem relays_note (P : Request → Prop) (n : Note) : (note n).Relays P :=
  .tell _ (.done ())

theorem relays_query (scope : Scope) (kind : Kind) (words : List String) :
    (scope.query kind words).Relays scope.Covers := by
  have hcovers : scope.Covers (.query kind ⟨scope.interp, scope.ns, words⟩) := ⟨rfl, rfl⟩
  exact .tell _ (relays_request hcovers)

theorem Relays.bind {d : Dialogue α} {f : α → Dialogue β} (hd : d.Relays P)
    (hf : ∀ a, (f a).Relays P) : (d >>= f).Relays P := by
  change (d.bind f).Relays P
  induction hd with
  | done a => exact hf a
  | tell output _ ih => exact .tell output ih
  | ask request h herror _ ih =>
      refine .ask request h ?_ ih
      intro e
      rw [herror e]
      rfl

theorem Relays.mono {Q : Request → Prop} {d : Dialogue α} (hd : d.Relays P)
    (h : ∀ request, P request → Q request) : d.Relays Q := by
  induction hd with
  | done a => exact .done a
  | tell output _ ih => exact .tell output ih
  | ask request hrequest herror _ ih => exact .ask request (h request hrequest) herror ih

theorem Relays.map {d : Dialogue α} (hd : d.Relays P) (f : α → β) : (f <$> d).Relays P := by
  rw [← bind_pure_comp]
  exact hd.bind fun a => relays_pure P (f a)

theorem Relays.asks {d : Dialogue α} (hd : d.Relays P) : d.Asks P := by
  induction hd with
  | done a => exact .done a
  | tell output _ ih => exact .tell output ih
  | ask request h herror _ ih =>
      refine .ask request h ?_
      intro reply
      cases reply with
      | ok a => exact ih a
      | error e =>
          rw [herror e]
          exact .fail e

/-- What a relaying dialogue fails with is what one of its requests fails with. -/
theorem Relays.outcome_run_eq_error_iff {d : Dialogue α} (hd : d.Relays P) (host : Host σ) (s : σ)
    (e : Failure) :
    (d.run host s).outcome = .error e ↔
      ∃ visit ∈ d.visits host s, (host visit.1 visit.2).1 = .error e := by
  induction hd generalizing s with
  | done a => simp [run, visits]
  | tell output _ ih => exact ih s
  | ask request _ herror _ ih =>
      simp only [run, visits, List.mem_cons, or_and_right, exists_or, exists_eq_left]
      cases hreply : (host request s).1 with
      | error e' => simp [herror e', run, visits]
      | ok a => simp [ih a]

end Dialogue

end TabCompletion
