import TabCompletion.Proofs.Draft.Word
import TabCompletion.Proofs.World.Extending

/-! # Edits of the word before the cursor

In a world, asking for completions never fails, and accepting one only goes on with what was typed,
unless the cursor stands right after a line end. -/

namespace TabCompletion

open Dialogue

namespace Completer

/-! ## Offers for the word -/

theorem extends_dollared {typed : String} {name : List Char} {offer : Offer}
    (hoffer : offer.Extends (String.ofList name)) (htyped : typed.toList = '$' :: name) :
    (dollared offer).Extends typed := by
  intro offered hoffered
  obtain ⟨found, hfound, rfl⟩ := List.mem_map.mp hoffered
  have hbegins := hoffer found hfound
  rw [String.toList_ofList] at hbegins
  rw [htyped, String.toList_append]
  exact List.cons_prefix_cons.mpr ⟨rfl, hbegins⟩

/-- Whatever is offered goes on from the word of the draft. -/
theorem extends_offer? {w : World} {scope : Scope} (h : w.Hosts scope) (completer : Completer)
    (draft : Draft) :
    OkOrRefused (fun found => ∀ offer ∈ found, offer.Extends draft.word)
      ((completer.offer? scope draft).outcome w.replies) := by
  have hsome : ∀ offer : Offer, offer.Extends draft.word →
      ∀ found ∈ some offer, Offer.Extends draft.word found := by
    rintro offer hoffer found ⟨⟩
    exact hoffer
  unfold offer?
  split
  · rename_i name hname
    refine okOrRefused_bind (World.extends_vars h (String.ofList name)) ?_
    intro offer hoffer
    exact okOrRefused_pure (hsome _ (extends_dollared hoffer hname))
  · split
    · split
      · exact okOrRefused_pure (by simp)
      · exact okOrRefused_map (World.extends_commands h draft.word) hsome
    · exact okOrRefused_map (World.extends_firstMethods h _ _ _) hsome
    · exact okOrRefused_pure (by simp)

/-- Nothing is offered for an empty word at the start of a command. -/
theorem offer?_eq_none (completer : Completer) (scope : Scope) {draft : Draft}
    (hword : draft.word = "") (hwords : draft.words = []) :
    completer.offer? scope draft = pure none := by
  simp [offer?, hword, hwords]

/-! ## Edits -/

/-- An edit for a word: it replaces as many characters as the word has and begins with the word;
there is none for an empty word after a line end. -/
structure EditsWord (text : String) (edit : Edit) : Prop where
  back : edit.back = (Draft.wordOf text.toList).length
  word_prefix : Draft.wordOf text.toList <+: edit.text.toList
  back_pos : text.toList.getLast? = some '\n' → 0 < edit.back

theorem extends_iff_of_editsWord {text : String} {edit : Edit} (h : EditsWord text edit) :
    edit.Extends text ↔ text.toList.getLast? ≠ some '\n' := by
  constructor
  · intro hextends hlast
    exact Draft.not_extends_of_last_eq (h.back_pos hlast) hlast hextends
  · exact Draft.extends_of_last_ne h.back h.word_prefix

theorem editsWord_of_mem_editsFor {text : String} {found : Option Offer}
    (hfound : ∀ offer ∈ found, offer.Extends (Draft.ofText text).word)
    (hpos : text.toList.getLast? = some '\n' → Draft.wordOf text.toList ≠ []) :
    ∀ edit ∈ editsFor ((Draft.ofText text).word, found), EditsWord text edit := by
  intro edit hedit
  cases found with
  | none => simp [editsFor] at hedit
  | some offer =>
      obtain ⟨name, hname, rfl⟩ := List.mem_map.mp hedit
      have hbegins := hfound offer rfl name hname
      have hback : (Draft.ofText text).word.length = (Draft.wordOf text.toList).length :=
        String.length_ofList
      refine ⟨hback, by simpa [Draft.ofText] using hbegins, ?_⟩
      intro hlast
      rw [hback]
      exact List.length_pos_iff.mpr (hpos hlast)

/-- Asking for edits never fails in a world: whatever is refused, there are just none. -/
theorem outcome_edits {w : World} {scope : Scope} (h : w.Hosts scope) (completer : Completer)
    (text : String) :
    ∃ edits, (completer.edits scope text).outcome w.replies = .ok edits ∧
      ∀ edit ∈ edits, EditsWord text edit := by
  by_cases hidle : text.toList.getLast? = some '\n' ∧ Draft.wordOf text.toList = []
  · obtain ⟨hlast, hword⟩ := hidle
    have hnone : completer.offer? scope (Draft.ofText text) = pure none :=
      offer?_eq_none completer scope (by simp [Draft.ofText, hword])
        (Draft.words_eq_nil hlast hword)
    refine ⟨[], ?_, by simp⟩
    rw [edits, resolve, hnone]
    rfl
  · have hpos : text.toList.getLast? = some '\n' → Draft.wordOf text.toList ≠ [] :=
      fun hlast hword => hidle ⟨hlast, hword⟩
    refine exists_ok_rescue (okOrRefused_map ?_ fun _ hedits => hedits) ?_
    · refine okOrRefused_bind (extends_offer? h completer (Draft.ofText text)) ?_
      intro found hfound
      exact okOrRefused_pure (editsWord_of_mem_editsFor hfound hpos)
    · intro r
      exact ⟨[], rfl, by simp⟩

/-- In a world, asking for completions never fails, whatever stands before the cursor. Each edit
begins with the word that the text ends with, a closing line end aside, and replaces as many
characters; so it goes on with what was typed exactly if the text does not end with a line end. -/
theorem edits_extend_iff_no_line_end (w : World) (scope : Scope) (hscope : w.Hosts scope)
    (completer : Completer) (text : String) :
    ∃ edits, ((completer.edits scope text).run World.host w).outcome = .ok edits ∧
      ∀ edit ∈ edits, edit.back = (Draft.wordOf text.toList).length ∧
        Draft.wordOf text.toList <+: edit.text.toList ∧
        (edit.Extends text ↔ text.toList.getLast? ≠ some '\n') := by
  obtain ⟨edits, hoc, hedits⟩ := outcome_edits hscope completer text
  refine ⟨edits, (World.run_outcome (asks_edits scope completer text) w).trans hoc, ?_⟩
  intro edit hedit
  have h := hedits edit hedit
  exact ⟨h.back, h.word_prefix, extends_iff_of_editsWord h⟩

/-- A world with a variable. -/
def abc : World where
  scalars := [("abc", "1")]

theorem edits_extend_abc :
    abc.Hosts .main ∧
      ∃ edits, (((Completer.of []).edits .main "puts [$a").run World.host abc).outcome =
          .ok edits ∧
        ∀ edit ∈ edits, edit.back = (Draft.wordOf "puts [$a".toList).length ∧
          Draft.wordOf "puts [$a".toList <+: edit.text.toList ∧
          (edit.Extends "puts [$a" ↔ "puts [$a".toList.getLast? ≠ some '\n') :=
  ⟨by decide, edits_extend_iff_no_line_end abc .main (by decide) (Completer.of []) "puts [$a"⟩

/-- After a line end the characters replaced are not those of the word: of `$a` and the line end,
the edit to `$abc` replaces the `a` and the line end. -/
theorem not_forall_edits_extend :
    ¬ ∀ (w : World) (scope : Scope) (completer : Completer) (text : String) (edits : List Edit),
      w.Hosts scope → ((completer.edits scope text).run World.host w).outcome = .ok edits →
        ∀ edit ∈ edits, edit.Extends text := by
  intro h
  have hedits : (((Completer.of []).edits .main "$a\n").run World.host abc).outcome =
      .ok [⟨"$abc", 2⟩] := by rfl
  have hextends := h abc .main (Completer.of []) "$a\n" _ (by decide) hedits ⟨"$abc", 2⟩ (by simp)
  exact Draft.not_extends_of_last_eq (by decide) (by decide) hextends

end Completer

end TabCompletion
