import TabCompletion.Proofs.Lookup.Consulting

/-! # Inquiries

All that can be looked up or completed in a scope, as one type. What holds of every way of asking is
stated of inquiries. -/

namespace TabCompletion

open Dialogue

/-- One thing to look up or to complete. -/
inductive Inquiry
  | commands (typed : String)
  | vars (typed : String)
  | methods (tag : ObjectSystem.Tag) (token typed : String)
  | anyMethods (tags : List ObjectSystem.Tag) (token typed : String)
  | resolve (completer : Completer) (text : String)
  | edits (completer : Completer) (text : String)

namespace Inquiry

@[reducible]
def Answer : Inquiry → Type
  | commands _ => Offer
  | vars _ => Offer
  | methods .. => Offer
  | anyMethods .. => Offer
  | resolve .. => String × Option Offer
  | edits .. => List Edit

/-- The dialogue that answers an inquiry in a scope. -/
def dialogue (scope : Scope) : (inquiry : Inquiry) → Dialogue inquiry.Answer
  | commands typed => Lookup.commands scope typed
  | vars typed => Lookup.vars scope typed
  | methods tag token typed => Lookup.methods scope typed tag token
  | anyMethods tags token typed => Lookup.anyMethods scope typed token tags
  | resolve completer text => completer.resolve scope text
  | edits completer text => completer.edits scope text

theorem inquires (scope : Scope) (inquiry : Inquiry) :
    (inquiry.dialogue scope).Inquires scope Lookup.Puts := by
  cases inquiry with
  | commands typed =>
      exact .consults ((Lookup.consults_commands scope typed).mono fun _ _ => Lookup.Lists.puts)
  | vars typed =>
      exact .consults ((Lookup.consults_vars scope typed).mono fun _ _ => Lookup.Lists.puts)
  | methods tag token typed =>
      have hconsults := Lookup.consults_methods scope typed tag token
      exact .consults (hconsults.mono fun _ _ => Lookup.PutsFor.puts)
  | anyMethods tags token typed =>
      have hconsults := Lookup.consults_firstMethods scope typed token (ObjectSystem.orUsual tags)
      exact .consults (hconsults.mono fun _ _ => Lookup.PutsForAny.puts)
  | resolve completer text =>
      have hconsults := Completer.consults_resolve scope completer text
      exact .consults (hconsults.mono fun _ _ => Completer.PutsAt.puts)
  | edits completer text =>
      have hconsults := Completer.consults_resolve scope completer text
      refine .rescues .completionFailed [] (by simp) (Consults.map ?_ Completer.editsFor)
      exact hconsults.mono fun _ _ => Completer.PutsAt.puts

end Inquiry

end TabCompletion
