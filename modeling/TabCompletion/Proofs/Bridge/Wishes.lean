import TabCompletion.Proofs.Binding.Record
import TabCompletion.Proofs.Bridge.Failures

/-! # The wish for richer values

Whether richer values than texts are wished is a matter of whoever owns the binding. The bridge
changes the wish while a command runs, and gives it back after each of its calls, however the call
ends. -/

namespace TabCompletion

variable {σ : Type}

/-- The state of a host after some requests, made one after the other, whatever the replies. -/
def Host.after (host : Host σ) (requests : List Request) (s : σ) : σ :=
  requests.foldl (fun t request => (host request t).2) s

namespace Bridge

variable {β : Type} (binding : Binding β)

/-! ## Single requests -/

/-- However a request ends, the wish is as before. -/
theorem richValues_host (request : Request) (link : Linked β) :
    (host binding request link).2.richValues = link.richValues := by
  cases request <;> rfl

/-- A request reaches the binding by one call, during which its own wish holds. -/
theorem record_host (request : Request) (link : Linked (β × List BindingCall)) :
    (host binding.recorded request link).2.record =
      link.record ++ [⟨sent request, wishes request link⟩] := by
  cases request <;> rfl

/-- Nothing but texts is wished of a command that an interpreter is made to run. -/
theorem wishes_eq_false {request : Request} {link : Linked β} {rest : List Value}
    (h : sent request = .text "::interp" :: .text "eval" :: rest) :
    wishes request link = false := by
  cases request with
  | query kind call => rfl
  | evaluate interp ns script => rfl
  | isComplete script => simp [sent] at h
  | source path interp => rfl
  | require package interp => rfl

/-! ## Any number of requests -/

theorem richValues_of_mem_visits {requests : List Request} {link : Linked β}
    {visit : Request × Linked β} (h : visit ∈ (host binding).visits requests link) :
    visit.2.richValues = link.richValues := by
  induction requests generalizing link with
  | nil => simp [Host.visits] at h
  | cons request rest ih =>
      rcases List.mem_cons.mp h with rfl | h
      · rfl
      · exact (ih h).trans (richValues_host binding request link)

theorem unrecorded_after (requests : List Request) (link : Linked (β × List BindingCall)) :
    ((host binding.recorded).after requests link).unrecorded =
      (host binding).after requests link.unrecorded := by
  induction requests generalizing link with
  | nil => rfl
  | cons request rest ih =>
      simp only [Host.after, List.foldl_cons] at ih ⊢
      rw [ih, host_unrecorded]

/-- The calls of several requests are those of each of them, all with the wishes that the first
state allows. -/
theorem record_after (requests : List Request) (link : Linked (β × List BindingCall)) :
    ((host binding.recorded).after requests link).record =
      link.record ++ requests.map fun request => ⟨sent request, wishes request link⟩ := by
  induction requests generalizing link with
  | nil => simp [Host.after]
  | cons request rest ih =>
      -- a wish depends on the state only through the wish of its owner, which no request changes
      have hwishes : ∀ next : Request,
          wishes next (host binding.recorded request link).2 = wishes next link := by
        intro next
        cases next with
        | isComplete script => exact richValues_host binding.recorded request link
        | query kind call => rfl
        | evaluate interp ns script => rfl
        | source path interp => rfl
        | require package interp => rfl
      simp only [Host.after, List.foldl_cons] at ih ⊢
      rw [ih, record_host]
      simp [hwishes]

/-- Whatever a binding does, and however each request ends, the wish of its owner holds before and
after every request. Every request makes one call; while a command runs in an interpreter nothing
but texts are wished, and no other call changes the wish at all. -/
theorem richValues_restored (requests : List Request) (link : Linked (β × List BindingCall)) :
    (∀ visit ∈ (host binding).visits requests link.unrecorded,
      visit.2.richValues = link.richValues ∧
        (host binding visit.1 visit.2).2.richValues = link.richValues) ∧
    ∃ calls : List BindingCall,
      ((host binding.recorded).after requests link).unrecorded =
        (host binding).after requests link.unrecorded ∧
      ((host binding.recorded).after requests link).record = link.record ++ calls ∧
      calls.map BindingCall.words = requests.map sent ∧
      ∀ call ∈ calls,
        (∀ rest, call.words = .text "::interp" :: .text "eval" :: rest →
          call.richValues = false) ∧
        ((∀ rest, call.words ≠ .text "::interp" :: .text "eval" :: rest) →
          call.richValues = link.richValues) := by
  constructor
  · intro visit hvisit
    have hbefore := richValues_of_mem_visits binding hvisit
    exact ⟨hbefore, (richValues_host binding visit.1 visit.2).trans hbefore⟩
  · refine ⟨_, unrecorded_after binding requests link, record_after binding requests link,
      by simp, ?_⟩
    intro call hcall
    obtain ⟨request, -, rfl⟩ := List.mem_map.mp hcall
    constructor
    · intro rest hrest
      exact wishes_eq_false hrest
    · intro hother
      cases request with
      | isComplete script => rfl
      | query kind call => exact absurd rfl (hother _)
      | evaluate interp ns script => exact absurd rfl (hother _)
      | source path interp => exact absurd rfl (hother _)
      | require package interp => exact absurd rfl (hother _)

/-- Whether a variable exists. -/
def askingFlag : Request :=
  .query .flag ⟨"", "::", ["::info", "exists", "x"]⟩

/-- A recorded binding whose first reply is no truth value, and whose second call fails. -/
def faltering : Linked (ScriptedBinding × List BindingCall) :=
  ⟨(⟨[.ok (.list []), .error "gone"], []⟩, []), true⟩

theorem richValues_restored_faltering :
    (∃ r, (ScriptedBinding.host askingFlag faltering.unrecorded).1 = .error (.rejected r)) ∧
    (ScriptedBinding.host askingFlag faltering.unrecorded).2.richValues = true ∧
    ∃ first second : BindingCall,
      ((host ScriptedBinding.binding.recorded).after [askingFlag, .isComplete "set x"]
        faltering).record = [first, second] ∧
      first.richValues = false ∧ second.richValues = true := by
  obtain ⟨hvisits, calls, -, hrecord, hwords, hcalls⟩ :=
    richValues_restored ScriptedBinding.binding [askingFlag, .isComplete "set x"] faltering
  obtain ⟨first, rest, rfl, hfirst, hrest⟩ := List.map_eq_cons_iff.mp hwords
  obtain ⟨second, others, rfl, hsecond, hothers⟩ := List.map_eq_cons_iff.mp hrest
  obtain rfl := List.map_eq_nil_iff.mp hothers
  refine ⟨⟨_, rfl⟩, (hvisits _ (.head _)).2, first, second, hrecord, ?_, ?_⟩
  · exact (hcalls first (by simp)).1 _ hfirst
  · refine (hcalls second (by simp)).2 ?_
    intro tail htail
    simp [hsecond, sent] at htail

end Bridge

end TabCompletion
