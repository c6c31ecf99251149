import TabCompletion.Proofs.Dialogue.Relaying
import TabCompletion.Proofs.Dialogue.Terms

/-! # Dialogues that consult

A dialogue consults a scope if all it asks are queries about that scope, each of them noted just
before it is put, and if it hands failures on. The notes of a run then tell every query, and tell it
once. -/

namespace TabCompletion

variable {α β σ : Type} {scope : Scope}

/-! ## Announced queries -/

namespace Output

/-- An output that does not announce a query. -/
def IsAside (output : Output) : Prop :=
  ∀ kind call, output ≠ .noted (.asking kind call)

end Output

namespace Event

/-- Events among which the requests are queries about a scope, each right after the note of that
query; there are no notes of queries besides. The queries are listed by their words. -/
inductive Announced (scope : Scope) : List Event → List (List String) → Prop
  | nil : Announced scope [] []
  | aside {output : Output} {events : List Event} {queries : List (List String)} :
      output.IsAside → Announced scope events queries →
      Announced scope (told output :: events) queries
  | query (kind : Kind) (words : List String) (reply : Except Failure kind.Answer)
      {events : List Event} {queries : List (List String)} : Announced scope events queries →
      Announced scope
        (told (.noted (.asking kind ⟨scope.interp, scope.ns, words⟩)) ::
          asked (.query kind ⟨scope.interp, scope.ns, words⟩) reply :: events)
        (words :: queries)

theorem Announced.append {events more : List Event} {queries others : List (List String)}
    (h : Announced scope events queries) (hmore : Announced scope more others) :
    Announced scope (events ++ more) (queries ++ others) := by
  induction h with
  | nil => exact hmore
  | aside haside _ ih => exact .aside haside ih
  | query kind words reply _ ih => exact .query kind words reply ih

end Event

namespace Dialogue

/-! ## States -/

/-- A run leaves its host in the state to which the requests of the run lead. -/
theorem state_run_eq_foldl (host : Host σ) (d : Dialogue α) (s : σ) :
    (d.run host s).state = (Event.exchanges (d.run host s).events).foldl
      (fun t exchange => (host exchange.request t).2) s := by
  induction d generalizing s with
  | done a => rfl
  | fail e => rfl
  | tell output next ih => exact ih s
  | ask request next ih => exact ih _ _

/-- What each query about a scope carries on, to the words asked so far and the state it leaves, a
run carries on to all the words it asks. -/
theorem state_run_of_announced (reached : List (List String) → σ → Prop) {host : Host σ}
    (hstep : ∀ kind words past t, reached past t →
      reached (past ++ [words]) (host (scope.looking kind words) t).2)
    {d : Dialogue α} {s : σ} (hs : reached [] s) {queries : List (List String)}
    (h : Event.Announced scope (d.run host s).events queries) :
    reached queries (d.run host s).state := by
  -- the induction is on the events, so it must start from any words and state reached so far
  have hfold : ∀ past t, reached past t → reached (past ++ queries)
      ((Event.exchanges (d.run host s).events).foldl
        (fun t exchange => (host exchange.request t).2) t) := by
    generalize (d.run host s).events = events at h
    induction h with
    | nil => simp
    | aside _ _ ih => exact ih
    | query kind words reply _ ih =>
        intro past t ht
        have hrest := ih _ _ (hstep kind words past t ht)
        rwa [List.append_assoc] at hrest
  rw [state_run_eq_foldl]
  exact hfold [] s hs

/-! ## Consulting -/

/-- All requests of a dialogue are queries about a scope of the kinds that may be put, each noted
just before, and it fails exactly where a query does. -/
inductive Consults (scope : Scope) (puts : Kind → List String → Prop) : Dialogue α → Prop
  | done (a : α) : Consults scope puts (done a)
  | aside {output : Output} {next : Dialogue α} : output.IsAside → Consults scope puts next →
      Consults scope puts (tell output next)
  | query {kind : Kind} {words : List String} {next : Except Failure kind.Answer → Dialogue α} :
      puts kind words → (∀ e, next (.error e) = fail e) →
      (∀ answer, Consults scope puts (next (.ok answer))) →
      Consults scope puts
        (tell (.noted (.asking kind ⟨scope.interp, scope.ns, words⟩))
          (ask (.query kind ⟨scope.interp, scope.ns, words⟩) next))

variable {puts : Kind → List String → Prop}

theorem consults_pure (scope : Scope) (puts : Kind → List String → Prop) (a : α) :
    (pure a : Dialogue α).Consults scope puts :=
  .done a

theorem consults_query (scope : Scope) {kind : Kind} {words : List String} (h : puts kind words) :
    (scope.query kind words).Consults scope puts :=
  .query h (fun _ => rfl) fun answer => .done answer

theorem consults_note {n : Note} (h : ∀ kind call, n ≠ .asking kind call) :
    (note n).Consults scope puts := by
  refine .aside ?_ (.done ())
  intro kind call heq
  exact h kind call (Output.noted.inj heq)

theorem Consults.bind {d : Dialogue α} {f : α → Dialogue β} (hd : d.Consults scope puts)
    (hf : ∀ a, (f a).Consults scope puts) : (d >>= f).Consults scope puts := by
  change (d.bind f).Consults scope puts
  induction hd with
  | done a => exact hf a
  | aside haside _ ih => exact .aside haside ih
  | query hputs herror _ ih =>
      refine .query hputs ?_ ih
      intro e
      rw [herror e]
      rfl

theorem Consults.map {d : Dialogue α} (hd : d.Consults scope puts) (f : α → β) :
    (f <$> d).Consults scope puts := by
  rw [← bind_pure_comp]
  exact hd.bind fun a => consults_pure scope puts (f a)

theorem Consults.mono {more : Kind → List String → Prop} {d : Dialogue α}
    (hd : d.Consults scope puts) (h : ∀ kind words, puts kind words → more kind words) :
    d.Consults scope more := by
  induction hd with
  | done a => exact .done a
  | aside haside _ ih => exact .aside haside ih
  | query hputs herror _ ih => exact .query (h _ _ hputs) herror ih

/-! ## What consulting leaves behind -/

theorem Consults.relays {d : Dialogue α} (hd : d.Consults scope puts) :
    d.Relays fun request => ∃ kind words, puts kind words ∧ request = scope.looking kind words := by
  induction hd with
  | done a => exact .done a
  | aside _ _ ih => exact .tell _ ih
  | query hputs herror _ ih => exact .tell _ (.ask _ ⟨_, _, hputs, rfl⟩ herror ih)

theorem Consults.relays_covers {d : Dialogue α} (hd : d.Consults scope puts) :
    d.Relays scope.Covers := by
  refine hd.relays.mono ?_
  rintro request ⟨kind, words, -, rfl⟩
  exact ⟨rfl, rfl⟩

theorem Consults.announced {d : Dialogue α} (hd : d.Consults scope puts) (host : Host σ) (s : σ) :
    ∃ queries, Event.Announced scope (d.run host s).events queries := by
  induction hd generalizing s with
  | done a => exact ⟨[], .nil⟩
  | aside haside _ ih =>
      obtain ⟨queries, hqueries⟩ := ih s
      exact ⟨queries, .aside haside hqueries⟩
  | @query kind words next hputs herror hnext ih =>
      simp only [run]
      generalize (host (.query kind ⟨scope.interp, scope.ns, words⟩) s).2 = t
      cases (host (.query kind ⟨scope.interp, scope.ns, words⟩) s).1 with
      | ok answer =>
          obtain ⟨queries, hqueries⟩ := ih answer t
          exact ⟨words :: queries, .query kind words _ hqueries⟩
      | error e =>
          rw [herror e]
          exact ⟨[words], .query kind words _ .nil⟩

/-! ## Rescuing -/

/-- A dialogue that consults a scope, or one that notes the refusals of such a dialogue and answers
all the same. -/
inductive Inquires (scope : Scope) (puts : Kind → List String → Prop) : Dialogue α → Prop
  | consults {d : Dialogue α} : d.Consults scope puts → Inquires scope puts d
  | rescues {d : Dialogue α} (remark : Rejection → Note) (answer : α) :
      (∀ r kind call, remark r ≠ .asking kind call) → d.Consults scope puts →
      Inquires scope puts (d.rescue fun r => do
        note (remark r)
        return answer)

theorem Inquires.asks {d : Dialogue α} (hd : d.Inquires scope puts) : d.Asks scope.Covers := by
  cases hd with
  | consults hd => exact hd.relays_covers.asks
  | rescues remark answer _ hd => exact hd.relays_covers.asks.rescue fun r => .tell _ (.done answer)

/-- Rescuing adds one remark to a run that is refused, and nothing to any other. -/
theorem run_rescue_remark (host : Host σ) (d : Dialogue α) (remark : Rejection → Note) (answer : α)
    (s : σ) :
    let run := d.run host s
    (d.rescue fun r => do
      note (remark r)
      return answer).run host s =
      match run.outcome with
      | .error (.rejected r) =>
        ⟨.ok answer, run.events ++ [.told (.noted (remark r))], run.state⟩
      | _ => run :=
  run_rescue host d _ s

/-- All that is asked in the course of an inquiry are announced queries about its scope. -/
theorem Inquires.announced {d : Dialogue α} (hd : d.Inquires scope puts) (host : Host σ) (s : σ) :
    ∃ queries, Event.Announced scope (d.run host s).events queries := by
  cases hd with
  | consults hd => exact hd.announced host s
  | rescues remark answer hremark hd =>
      rw [run_rescue_remark]
      obtain ⟨queries, hqueries⟩ := hd.announced host s
      split
      · next r _ =>
        have haside : Output.IsAside (.noted (remark r)) := fun kind call heq =>
          hremark r kind call (Output.noted.inj heq)
        exact ⟨_, hqueries.append (.aside haside .nil)⟩
      · exact ⟨queries, hqueries⟩

end Dialogue

end TabCompletion
