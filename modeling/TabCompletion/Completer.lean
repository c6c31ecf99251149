import TabCompletion.Draft
import TabCompletion.Lookup.Methods

/-! # Completing the word before the cursor -/

namespace TabCompletion

open Dialogue

/-- A completer knows which object systems to try, in which order. -/
structure Completer where
  systems : List ObjectSystem.Tag
deriving DecidableEq, Repr

namespace Completer

/-- The usual systems stand in for an empty choice. -/
def of (systems : List ObjectSystem.Tag) : Completer :=
  ⟨ObjectSystem.orUsual systems⟩

/-- An offer for the name after a `$`, as an offer for the whole word. -/
def dollared (offer : Offer) : Offer :=
  ⟨"$" ++ offer.common, offer.names.map ("$" ++ ·)⟩

/-- What is offered for the word of a draft, if anything applies to it: a variable after a `$`, a
command in the first place, a method of the first word in the second. -/
def offer? (completer : Completer) (scope : Scope) (draft : Draft) : Dialogue (Option Offer) :=
  match draft.word.toList with
  | '$' :: name => do
    let offer ← Lookup.vars scope (String.ofList name)
    return some (dollared offer)
  | _ =>
    match draft.words with
    | [] =>
      if draft.word = "" then return none
      else some <$> Lookup.commands scope draft.word
    | [receiver] => some <$> Lookup.anyMethods scope draft.word receiver completer.systems
    | _ => return none

/-- The word before the cursor and what is offered for it. -/
def resolve (completer : Completer) (scope : Scope) (text : String) :
    Dialogue (String × Option Offer) := do
  let draft := Draft.ofText text
  let offer ← completer.offer? scope draft
  return (draft.word, offer)

/-- The edits that put each of the offered names in the place of the word. -/
def editsFor : String × Option Offer → List Edit
  | (_, none) => []
  | (word, some offer) => offer.names.map fun name => ⟨name, word.length⟩

/-- The edits offered after a text. If the interpreter refuses a command there are none. -/
def edits (completer : Completer) (scope : Scope) (text : String) : Dialogue (List Edit) :=
  (editsFor <$> completer.resolve scope text).rescue fun r => do
    note (.completionFailed r)
    return []

end Completer

end TabCompletion
