import TabCompletion.Receiver

/-! # Dialogues that keep in step

Two hosts may name the same things in different orders. Dialogues that never let such an order show
put the same queries to both and come to related ends. -/

namespace TabCompletion

variable {α β γ δ σ τ : Type}

/-! ## Replies up to the order of names -/

/-- Two answers that differ at most in the order of names. -/
def Kind.Agree : (kind : Kind) → kind.Answer → kind.Answer → Prop
  | names, found, found' => found.Perm found'
  | flag, b, b' => b = b'
  | value, s, s' => s = s'

/-- Two replies that are answers up to the order of names, or the same failure. -/
inductive Kind.AgreeReplies (kind : Kind) :
    Except Failure kind.Answer → Except Failure kind.Answer → Prop
  | ok {answer answer' : kind.Answer} : kind.Agree answer answer' →
      AgreeReplies kind (.ok answer) (.ok answer')
  | error (e : Failure) : AgreeReplies kind (.error e) (.error e)

/-- Two hosts that answer every query alike up to the order of names, for as long as they are in
related states; and a query leaves them in such. -/
def Host.Agree (related : σ → τ → Prop) (host : Host σ) (host' : Host τ) : Prop :=
  ∀ kind call s t, related s t →
    kind.AgreeReplies (host (.query kind call) s).1 (host' (.query kind call) t).1 ∧
      related (host (.query kind call) s).2 (host' (.query kind call) t).2

/-! ## Dialogues in step -/

namespace Dialogue

/-- Two dialogues that say the same and put the same queries, as long as the replies agree, and are
done with related results or fail alike. -/
inductive InStep (R : α → β → Prop) : Dialogue α → Dialogue β → Prop
  | done {a : α} {b : β} : R a b → InStep R (done a) (done b)
  | fail (e : Failure) : InStep R (fail e) (fail e)
  | tell (output : Output) {next : Dialogue α} {next' : Dialogue β} :
      InStep R next next' → InStep R (tell output next) (tell output next')
  | ask {kind : Kind} (call : Call) {next : Except Failure kind.Answer → Dialogue α}
      {next' : Except Failure kind.Answer → Dialogue β} :
      (∀ reply reply', kind.AgreeReplies reply reply' → InStep R (next reply) (next' reply')) →
        InStep R (ask (.query kind call) next) (ask (.query kind call) next')

variable {R : α → β → Prop} {S : γ → δ → Prop} {d : Dialogue α} {d' : Dialogue β}

theorem inStep_pure {a : α} {b : β} (h : R a b) :
    InStep R (pure a : Dialogue α) (pure b : Dialogue β) :=
  .done h

theorem inStep_query (scope : Scope) (kind : Kind) (words : List String) :
    InStep kind.Agree (scope.query kind words) (scope.query kind words) := by
  refine .tell _ (.ask _ ?_)
  intro reply reply' hreply
  cases hreply with
  | ok h => exact .done h
  | error e => exact .fail e

theorem InStep.bind {f : α → Dialogue γ} {g : β → Dialogue δ} (h : InStep R d d')
    (hf : ∀ a b, R a b → InStep S (f a) (g b)) : InStep S (d >>= f) (d' >>= g) := by
  change InStep S (d.bind f) (d'.bind g)
  induction h with
  | done hab => exact hf _ _ hab
  | fail e => exact .fail e
  | tell output _ ih => exact .tell output ih
  | ask call _ ih => exact .ask call ih

theorem InStep.map {f : α → γ} {g : β → δ} (h : InStep R d d') (hf : ∀ a b, R a b → S (f a) (g b)) :
    InStep S (f <$> d) (g <$> d') := by
  rw [← bind_pure_comp, ← bind_pure_comp]
  exact h.bind fun a b hab => inStep_pure (hf a b hab)

theorem InStep.rescue {d d' : Dialogue α} {R : α → α → Prop} {handler : Rejection → Dialogue α}
    (h : InStep R d d') (hhandler : ∀ r, InStep R (handler r) (handler r)) :
    InStep R (d.rescue handler) (d'.rescue handler) := by
  induction h with
  | done hab => exact .done hab
  | fail e =>
      cases e with
      | rejected r => exact hhandler r
      | _ => exact .fail _
  | tell output _ ih => exact .tell output ih
  | ask call _ ih => exact .ask call ih

/-- What a query is answered is the same in both dialogues but for the order of names. -/
theorem inStep_query_bind {scope : Scope} {kind : Kind} {words : List String}
    {f : kind.Answer → Dialogue γ} {g : kind.Answer → Dialogue δ}
    (h : ∀ a b, kind.Agree a b → InStep S (f a) (g b)) :
    InStep S (scope.query kind words >>= f) (scope.query kind words >>= g) :=
  (inStep_query scope kind words).bind h

/-- Dialogues in step come to the same end with hosts that agree. -/
theorem InStep.outcome_run_eq {d d' : Dialogue α} (h : InStep Eq d d') {host : Host σ}
    {host' : Host τ} {related : σ → τ → Prop} (hhosts : host.Agree related host') {s : σ} {t : τ}
    (hst : related s t) : (d.run host s).outcome = (d'.run host' t).outcome := by
  induction h generalizing s t with
  | done hab => rw [hab]; rfl
  | fail e => rfl
  | tell output _ ih => exact ih hst
  | ask call _ ih =>
      obtain ⟨hreply, hnext⟩ := hhosts _ call s t hst
      exact ih _ _ hreply hnext

end Dialogue

end TabCompletion
