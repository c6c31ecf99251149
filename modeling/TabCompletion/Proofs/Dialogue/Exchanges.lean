import TabCompletion.Proofs.Dialogue.Replies

/-! # What passes between a dialogue and its host

The events of a run hold the requests with their replies. What is known of every request or of
every reply of a host is known of them. -/

namespace TabCompletion

variable {α β σ : Type}

/-- A request together with its reply. -/
structure Exchange where
  request : Request
  reply : Except Failure request.Answer

/-- The request that a query about a scope makes. -/
abbrev Scope.looking (scope : Scope) (kind : Kind) (words : List String) : Request :=
  .query kind ⟨scope.interp, scope.ns, words⟩

namespace Event

def exchange? : Event → Option Exchange
  | told _ => none
  | asked request reply => some ⟨request, reply⟩

def printed? : Event → Option Fragment
  | told (.printed fragment) => some fragment
  | _ => none

/-- What was asked and replied in the course of some events. -/
def exchanges (events : List Event) : List Exchange :=
  events.filterMap exchange?

/-- What was printed in the course of some events. -/
def printed (events : List Event) : List Fragment :=
  events.filterMap printed?

@[simp]
theorem exchanges_append (events more : List Event) :
    exchanges (events ++ more) = exchanges events ++ exchanges more :=
  List.filterMap_append

@[simp]
theorem exchanges_nil : exchanges [] = [] :=
  rfl

@[simp]
theorem exchanges_asked (request : Request) (reply : Except Failure request.Answer)
    (events : List Event) :
    exchanges (asked request reply :: events) = ⟨request, reply⟩ :: exchanges events :=
  rfl

@[simp]
theorem printed_append (events more : List Event) :
    printed (events ++ more) = printed events ++ printed more :=
  List.filterMap_append

/-- An exchange comes from an event, and the exchanges before it from the events before that. -/
theorem exists_of_exchanges_eq {events : List Event} {before after : List Exchange}
    {exchange : Exchange} (h : exchanges events = before ++ exchange :: after) :
    ∃ front rest, events = front ++ asked exchange.request exchange.reply :: rest ∧
      exchanges front = before := by
  obtain ⟨front, back, rfl, hfront, hback⟩ := List.filterMap_eq_append_iff.mp h
  obtain ⟨quiet, event, rest, rfl, hquiet, hevent, -⟩ := List.filterMap_eq_cons_iff.mp hback
  cases event with
  | told output => simp [exchange?] at hevent
  | asked request reply =>
      obtain rfl : Exchange.mk request reply = exchange := Option.some.inj hevent
      refine ⟨front ++ quiet, rest, by simp, ?_⟩
      rw [exchanges_append, show exchanges front = before from hfront,
        show exchanges quiet = [] from List.filterMap_eq_nil_iff.mpr hquiet, List.append_nil]

end Event

namespace Dialogue

/-! ## Runs -/

/-- A function applied to what a dialogue is done with leaves its run as it is otherwise. -/
theorem run_map (host : Host σ) (f : α → β) (d : Dialogue α) (s : σ) :
    (f <$> d).run host s =
      ⟨(d.run host s).outcome.map f, (d.run host s).events, (d.run host s).state⟩ := by
  rw [← bind_pure_comp, run_bind]
  cases (d.run host s).outcome with
  | ok a => simp [Except.map]
  | error e => rfl

theorem events_run_map (host : Host σ) (d : Dialogue α) (f : α → β) (s : σ) :
    ((f <$> d).run host s).events = (d.run host s).events := by
  rw [run_map]

theorem events_run_bind_pure (host : Host σ) (d : Dialogue α) (f : α → β) (s : σ) :
    ((d >>= fun a => pure (f a)).run host s).events = (d.run host s).events := by
  rw [bind_pure_comp, events_run_map]

/-- A sequence is done only if both its dialogues are. -/
theorem exists_of_outcome_run_bind {host : Host σ} {d : Dialogue α} {f : α → Dialogue β} {s : σ}
    {b : β} (h : ((d >>= f).run host s).outcome = .ok b) :
    ∃ a, (d.run host s).outcome = .ok a ∧
      ((f a).run host (d.run host s).state).outcome = .ok b := by
  rw [run_bind] at h
  split at h
  · next a ha => exact ⟨a, ha, h⟩
  · cases h

theorem Asks.exchanges {P : Request → Prop} {d : Dialogue α} (h : d.Asks P) (host : Host σ)
    (s : σ) : ∀ exchange ∈ Event.exchanges (d.run host s).events, P exchange.request := by
  induction h generalizing s with
  | done a => simp [Dialogue.run]
  | fail e => simp [Dialogue.run]
  | tell output _ ih => exact ih s
  | ask request hrequest _ ih =>
      simp only [Dialogue.run, Event.exchanges_asked, List.forall_mem_cons]
      exact ⟨hrequest, ih _ _⟩

/-- Every reply is given in a state of the host from which the last one comes about. -/
theorem run_replies {host : Host σ} (le : σ → σ → Prop) (hrefl : ∀ s, le s s)
    (htrans : ∀ r s t, le s r → le r t → le s t) (hstep : ∀ request s, le s (host request s).2)
    (d : Dialogue α) (s : σ) :
    le s (d.run host s).state ∧
      ∀ exchange ∈ Event.exchanges (d.run host s).events, ∃ t,
        exchange.reply = (host exchange.request t).1 ∧ le t (d.run host s).state := by
  induction d generalizing s with
  | done a => exact ⟨hrefl s, by simp [Dialogue.run]⟩
  | fail e => exact ⟨hrefl s, by simp [Dialogue.run]⟩
  | tell output next ih => exact ih s
  | ask request next ih =>
      obtain ⟨hlast, hreplies⟩ := ih (host request s).1 (host request s).2
      have hfirst := htrans _ _ _ (hstep request s) hlast
      simp only [Dialogue.run, Event.exchanges_asked, List.forall_mem_cons]
      exact ⟨hfirst, ⟨s, rfl, hfirst⟩, hreplies⟩

end Dialogue

end TabCompletion
