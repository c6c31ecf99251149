import TabCompletion.Proofs.Dialogue.Relaying
import TabCompletion.Proofs.Dialogue.Refusals

/-! # Dialogues that never fail

With a host that only refuses, a dialogue that rescues its refusals is done in the end, whatever the
state of the host. -/

namespace TabCompletion

variable {α β σ : Type}

/-- Of some requests, a host never fails but by refusing a command. -/
def Host.OnlyRefuses (host : Host σ) (P : Request → Prop) : Prop :=
  ∀ request s, P request → Dialogue.OkOrRefused (fun _ => True) (host request s).1

theorem Host.OnlyRefuses.mono {host : Host σ} {P Q : Request → Prop} (h : host.OnlyRefuses P)
    (hQ : ∀ request, Q request → P request) : host.OnlyRefuses Q :=
  fun request s hrequest => h request s (hQ request hrequest)

namespace Dialogue

variable {host : Host σ} {P : α → Prop} {Q : β → Prop}

/-- In every state of the host the dialogue is done with a value that has a property. -/
def Succeeds (host : Host σ) (d : Dialogue α) (P : α → Prop) : Prop :=
  ∀ s, ∃ a, (d.run host s).outcome = .ok a ∧ P a

theorem succeeds_pure {a : α} (h : P a) : (pure a : Dialogue α).Succeeds host P :=
  fun _ => ⟨a, rfl, h⟩

theorem succeeds_tell {output : Output} {d : Dialogue α} (h : d.Succeeds host P) :
    (Dialogue.tell output d).Succeeds host P :=
  h

theorem succeeds_request {r : Request} {answer : r.Answer}
    (h : ∀ s, (host r s).1 = .ok answer) : (request r).Succeeds host (· = answer) := by
  intro s
  refine ⟨answer, ?_, rfl⟩
  simp only [request, run, h s]
  rfl

theorem Succeeds.bind {d : Dialogue α} {f : α → Dialogue β} (hd : d.Succeeds host P)
    (hf : ∀ a, P a → (f a).Succeeds host Q) : (d >>= f).Succeeds host Q := by
  intro s
  obtain ⟨a, ha, hP⟩ := hd s
  rw [run_bind, ha]
  exact hf a hP _

theorem succeeds_forM {f : α → Dialogue Unit} (hf : ∀ a, (f a).Succeeds host fun _ => True)
    (items : List α) : (items.forM f).Succeeds host fun _ => True := by
  induction items with
  | nil => exact succeeds_pure trivial
  | cons a rest ih => exact (hf a).bind fun _ _ => ih

/-- What each step of a sequence keeps, in step with the host, holds after the whole sequence. -/
theorem exists_ok_run_foldlM {host : Host σ} {f : β → α → Dialogue β} {Inv : β → σ → Prop}
    (hstep : ∀ b a s, Inv b s → ∃ b', ((f b a).run host s).outcome = .ok b' ∧
      Inv b' ((f b a).run host s).state)
    (steps : List α) {b : β} {s : σ} (h : Inv b s) :
    ∃ b', ((steps.foldlM f b).run host s).outcome = .ok b' ∧
      Inv b' ((steps.foldlM f b).run host s).state := by
  induction steps generalizing b s with
  | nil => exact ⟨b, rfl, h⟩
  | cons a rest ih =>
      obtain ⟨b', hoc, hinv⟩ := hstep b a s h
      rw [List.foldlM_cons, run_bind, hoc]
      exact ih hinv

/-! ## Rescuing -/

/-- What relays requests that are only refused is only refused itself. -/
theorem Relays.okOrRefused_run {R : Request → Prop} {d : Dialogue α} (hd : d.Relays R)
    (hhost : host.OnlyRefuses R) (s : σ) :
    OkOrRefused (fun _ => True) (d.run host s).outcome := by
  induction hd generalizing s with
  | done a => exact .inl ⟨a, rfl, trivial⟩
  | tell output _ ih => exact ih s
  | ask request hrequest herror _ ih =>
      simp only [run]
      rcases hhost request s hrequest with ⟨a, hreply, -⟩ | ⟨r, hreply⟩
      · rw [hreply]
        exact ih a _
      · rw [hreply, herror]
        exact .inr ⟨r, rfl⟩

theorem succeeds_rescue {R : Request → Prop} {d : Dialogue α} {handler : Rejection → Dialogue α}
    (hd : d.Relays R) (hhost : host.OnlyRefuses R)
    (hhandler : ∀ r, (handler r).Succeeds host fun _ => True) :
    (d.rescue handler).Succeeds host fun _ => True := by
  intro s
  rw [outcome_run_rescue]
  rcases hd.okOrRefused_run hhost s with ⟨a, ha, -⟩ | ⟨r, hr⟩
  · rw [ha]
    exact ⟨a, rfl, trivial⟩
  · rw [hr]
    exact hhandler r _

end Dialogue

end TabCompletion
