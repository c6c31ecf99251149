import TabCompletion.Proofs.Dialogue.Relaying

/-! # One dialogue with two hosts

Hosts that answer alike, request by request, answer whole dialogues alike. One of them may keep a
record that the other does without; it may also tell failures in its own way, and then it tells the
failure of a relaying dialogue so. -/

namespace TabCompletion

variable {α σ τ : Type}

/-- A run of which only a part of the state is kept. -/
def Run.mapState (f : τ → σ) (run : Run τ α) : Run σ α :=
  ⟨run.outcome, run.events, f run.state⟩

namespace Dialogue

/-- A host that answers as another one does, but for a part of its state that the other has not, is
told and asked the same. -/
theorem run_mapState {host : Host σ} {full : Host τ} {forget : τ → σ}
    (h : ∀ request t, host request (forget t) = ((full request t).1, forget (full request t).2))
    (d : Dialogue α) (t : τ) : d.run host (forget t) = (d.run full t).mapState forget := by
  induction d generalizing t with
  | done a => rfl
  | fail e => rfl
  | tell output next ih => simp only [run, ih, Run.mapState]
  | ask request next ih => simp only [run, h, ih, Run.mapState]

variable {P : Request → Prop} {d : Dialogue α} {host : Host σ}

/-- A host that answers as another one does, but tells failures in its own way, is asked the same by
a relaying dialogue, which comes to the same end but for the way in which a failure is told. -/
theorem Relays.run_retold {host' : Host τ} {carry : σ → τ} {retell : Failure → Failure}
    (h : ∀ request s, P request → host' request (carry s) =
      ((host request s).1.mapError retell, carry (host request s).2))
    (hd : d.Relays P) (s : σ) :
    (d.run host' (carry s)).outcome = (d.run host s).outcome.mapError retell ∧
      (d.run host' (carry s)).events.filterMap Event.request? =
        (d.run host s).events.filterMap Event.request? ∧
      (d.run host' (carry s)).state = carry (d.run host s).state := by
  induction hd generalizing s with
  | done a => exact ⟨rfl, rfl, rfl⟩
  | tell output _ ih => exact ih s
  | @ask request next hrequest herror _ ih =>
      simp only [run, h request s hrequest]
      cases hreply : (host request s).1 with
      | ok a =>
          obtain ⟨houtcome, hrequests, hstate⟩ := ih a (host request s).2
          exact ⟨houtcome, congrArg (request :: ·) hrequests, hstate⟩
      | error e =>
          have hretold : next (Except.mapError retell (.error e)) = fail (retell e) :=
            herror (retell e)
          rw [hretold, herror e]
          exact ⟨rfl, rfl, rfl⟩

/-- A relaying dialogue that fails is at its end with the request that failed. -/
theorem Relays.exists_last {e : Failure} (hd : d.Relays P) (s : σ)
    (h : (d.run host s).outcome = .error e) :
    ∃ request t, P request ∧ host request t = (.error e, (d.run host s).state) := by
  induction hd generalizing s with
  | done a => cases h
  | tell output _ ih => exact ih s h
  | @ask request next hrequest herror _ ih =>
      simp only [run] at h ⊢
      cases hreply : (host request s).1 with
      | ok a =>
          rw [hreply] at h
          exact ih a _ h
      | error e' =>
          rw [hreply, herror e'] at h
          rw [herror e']
          obtain rfl : e' = e := Except.error.inj h
          exact ⟨request, s, hrequest, Prod.ext hreply rfl⟩

end Dialogue

end TabCompletion
