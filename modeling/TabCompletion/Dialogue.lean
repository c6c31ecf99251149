import TabCompletion.Transcript

/-! # Dialogues with an interpreter

A dialogue is a computation that says things and asks things; it does not know who answers. Running
it against a host gives its outcome, the transcript, and the state in which it leaves the host. -/

namespace TabCompletion

inductive Dialogue (α : Type) : Type
  | done (a : α)
  | fail (e : Failure)
  | tell (output : Output) (next : Dialogue α)
  | ask (request : Request) (next : Except Failure request.Answer → Dialogue α)

namespace Dialogue

variable {α β γ σ : Type}

/-! ## Sequencing -/

/-- The second dialogue goes on where the first is done; a failure ends both. -/
protected def bind : Dialogue α → (α → Dialogue β) → Dialogue β
  | done a, f => f a
  | fail e, _ => fail e
  | tell output next, f => tell output (next.bind f)
  | ask request next, f => ask request fun reply => (next reply).bind f

instance : Monad Dialogue where
  pure := done
  bind := Dialogue.bind

theorem bind_done (d : Dialogue α) : d.bind done = d := by
  induction d with
  | done a => rfl
  | fail e => rfl
  | tell output next ih => simp only [Dialogue.bind, ih]
  | ask request next ih => simp only [Dialogue.bind, ih]

theorem bind_assoc (d : Dialogue α) (f : α → Dialogue β) (g : β → Dialogue γ) :
    (d.bind f).bind g = d.bind fun a => (f a).bind g := by
  induction d with
  | done a => rfl
  | fail e => rfl
  | tell output next ih => simp only [Dialogue.bind, ih]
  | ask request next ih => simp only [Dialogue.bind, ih]

instance : LawfulMonad Dialogue :=
  LawfulMonad.mk' Dialogue bind_done (fun _ _ => rfl) bind_assoc

/-- Goes on with a second dialogue where the first fails because the interpreter refused a
command; other failures stay. -/
def rescue : Dialogue α → (Rejection → Dialogue α) → Dialogue α
  | done a, _ => done a
  | fail (.rejected r), handler => handler r
  | fail e, _ => fail e
  | tell output next, handler => tell output (next.rescue handler)
  | ask request next, handler => ask request fun reply => (next reply).rescue handler

/-! ## Steps -/

def ofExcept : Except Failure α → Dialogue α
  | .ok a => done a
  | .error e => fail e

/-- Sends one request; a failing reply ends the dialogue. -/
def request (r : Request) : Dialogue r.Answer :=
  ask r ofExcept

def note (n : Note) : Dialogue Unit :=
  tell (.noted n) (done ())

def print (style : Style) (text : String) : Dialogue Unit :=
  tell (.printed ⟨style, text⟩) (done ())

/-- Sends a command that only looks, and notes it beforehand. -/
def query (kind : Kind) (call : Call) : Dialogue kind.Answer :=
  tell (.noted (.asking kind call)) (request (.query kind call))

end Dialogue

/-! ## Running -/

/-- What running a dialogue leaves behind. -/
structure Run (σ α : Type) where
  outcome : Except Failure α
  events : List Event
  state : σ

namespace Dialogue

variable {α β σ : Type}

def run (host : Host σ) : Dialogue α → σ → Run σ α
  | done a, s => ⟨.ok a, [], s⟩
  | fail e, s => ⟨.error e, [], s⟩
  | tell output next, s =>
    let rest := next.run host s
    { rest with events := .told output :: rest.events }
  | ask request next, s =>
    let answered := host request s
    let rest := (next answered.1).run host answered.2
    { rest with events := .asked request answered.1 :: rest.events }

@[simp]
theorem run_pure (host : Host σ) (a : α) (s : σ) :
    (pure a : Dialogue α).run host s = ⟨.ok a, [], s⟩ :=
  rfl

/-- A sequence runs its first dialogue, and then, if that is done, the second one in the state in
which the first left the host. -/
theorem run_bind (host : Host σ) (d : Dialogue α) (f : α → Dialogue β) (s : σ) :
    (d >>= f).run host s =
      match (d.run host s).outcome with
      | .ok a =>
        let rest := (f a).run host (d.run host s).state
        { rest with events := (d.run host s).events ++ rest.events }
      | .error e => ⟨.error e, (d.run host s).events, (d.run host s).state⟩ := by
  change (d.bind f).run host s = _
  induction d generalizing s with
  | done a => rfl
  | fail e => rfl
  | tell output next ih =>
    simp only [Dialogue.bind, run, ih]
    split <;> simp_all
  | ask request next ih =>
    simp only [Dialogue.bind, run, ih]
    split <;> simp_all

end Dialogue

end TabCompletion
