import TabCompletion.Proofs.Completer.Edits
import TabCompletion.Proofs.World.Retyping

/-! # Accepting a completion

In a world whose names can be typed as words, an accepted completion is the word of the draft then,
and is offered again. -/

namespace TabCompletion

open Dialogue

namespace Completer

variable {w : World} {scope : Scope}

/-! ## Edits and offers -/

/-- The edits of a text are those of the offer for its word; there are none if it is refused. -/
theorem outcome_edits_eq (completer : Completer) (scope : Scope) (text : String)
    (replies : Replies) :
    (completer.edits scope text).outcome replies =
      match (completer.offer? scope (Draft.ofText text)).outcome replies with
      | .ok found => .ok (editsFor ((Draft.ofText text).word, found))
      | .error (.rejected _) => .ok []
      | .error e => .error e := by
  rw [edits, outcome_rescue, outcome_map, resolve, outcome_bind]
  cases (completer.offer? scope (Draft.ofText text)).outcome replies with
  | ok found => rfl
  | error e => cases e <;> rfl

theorem exists_offer_of_mem {completer : Completer} {text : String} {edits : List Edit}
    {edit : Edit} (hedits : (completer.edits scope text).outcome w.replies = .ok edits)
    (hedit : edit ∈ edits) :
    ∃ offer, (completer.offer? scope (Draft.ofText text)).outcome w.replies = .ok (some offer) ∧
      edit.text ∈ offer.names := by
  rw [outcome_edits_eq] at hedits
  split at hedits
  · next found hfound =>
    cases hedits
    cases found with
    | none => simp [editsFor] at hedit
    | some offer =>
        obtain ⟨name, hname, rfl⟩ := List.mem_map.mp hedit
        exact ⟨offer, hfound, hname⟩
  · cases hedits
    simp at hedit
  · cases hedits

/-! ## Offers for the word -/

/-- The name of an element of an array, as it is completed after a `$`. -/
def IsElement (w : World) (text : String) : Prop :=
  ∃ name, w.IsElement name ∧ text = "$" ++ name

theorem offer?_of_variable (completer : Completer) (scope : Scope) (words : List String)
    (name : String) :
    completer.offer? scope ⟨words, "$" ++ name⟩ =
      (fun offer => some (dollared offer)) <$> Lookup.vars scope name := by
  simp [offer?, String.toList_append]

theorem offer?_of_other (completer : Completer) (scope : Scope) (words : List String)
    {word : String} (hhead : word.toList.head? ≠ some '$') :
    completer.offer? scope ⟨words, word⟩ =
      match words with
      | [] => if word = "" then return none else some <$> Lookup.commands scope word
      | [receiver] => some <$> Lookup.anyMethods scope word receiver completer.systems
      | _ => return none := by
  rw [offer?]
  split
  · next name hname => simp [hname] at hhead
  · rfl

section

variable (h : w.Hosts scope) (hnames : w.NamesWords) {completer : Completer} {words : List String}
  {offer : Offer}

include h hnames

theorem retyped_variable {typed name : String} (hword : Draft.IsWord ("$" ++ typed))
    (hoffer : (completer.offer? scope ⟨words, "$" ++ typed⟩).outcome w.replies = .ok (some offer))
    (hname : name ∈ offer.names) :
    Draft.IsWord name ∧ (¬ IsElement w name →
      ∃ again, (completer.offer? scope ⟨words, name⟩).outcome w.replies = .ok (some again) ∧
        name ∈ again.names) := by
  rw [offer?_of_variable, outcome_map_eq_ok_iff] at hoffer
  obtain ⟨found, hfound, hdollared⟩ := hoffer
  cases hdollared
  obtain ⟨var, hvar, rfl⟩ := List.mem_map.mp hname
  have htyped : Draft.IsWord typed := by
    intro c hc
    exact hword c (by simp [hc])
  obtain ⟨hisWord, hretyped⟩ := World.retyped_vars h hnames hfound htyped hvar
  constructor
  · intro c hc
    rw [String.toList_append, List.mem_append] at hc
    rcases hc with hc | hc
    · rw [List.mem_singleton.mp hc]
      decide
    · exact hisWord c hc
  · intro hnot
    obtain ⟨again, hagain, hmem⟩ := (hretyped fun helement => hnot ⟨var, helement, rfl⟩).again
    rw [offer?_of_variable]
    exact ⟨dollared again, outcome_map_eq_ok_iff.mpr ⟨again, hagain, rfl⟩,
      List.mem_map_of_mem hmem⟩

theorem retyped_other {word name : String} (hhead : word.toList.head? ≠ some '$')
    (hbegins : word.toList <+: name.toList)
    (hoffer : (completer.offer? scope ⟨words, word⟩).outcome w.replies = .ok (some offer))
    (hname : name ∈ offer.names) :
    Draft.IsWord name ∧
      ∃ again, (completer.offer? scope ⟨words, name⟩).outcome w.replies = .ok (some again) ∧
        name ∈ again.names := by
  rw [offer?_of_other _ _ _ hhead] at hoffer
  split at hoffer
  · split at hoffer
    · cases hoffer
    · next hne =>
      rw [outcome_map_eq_ok_iff] at hoffer
      obtain ⟨found, hfound, hsome⟩ := hoffer
      cases hsome
      have hretyped := World.retyped_commands h hnames hfound hname
      have hne' : name ≠ "" := by
        rintro rfl
        exact hne (by simpa using hbegins)
      have hhead' : name.toList.head? ≠ some '$' := by
        obtain ⟨rest, hrest⟩ := hbegins
        rwa [← hrest, List.head?_append_of_ne_nil _ (by simpa using hne)]
      refine ⟨hretyped.isWord, ?_⟩
      obtain ⟨again, hagain, hmem⟩ := hretyped.again
      rw [offer?_of_other _ _ _ hhead']
      simp only [hne', ite_false]
      exact ⟨again, outcome_map_eq_ok_iff.mpr ⟨again, hagain, rfl⟩, hmem⟩
  · next receiver =>
    rw [outcome_map_eq_ok_iff] at hoffer
    obtain ⟨found, hfound, hsome⟩ := hoffer
    cases hsome
    obtain ⟨hretyped, hhead'⟩ := World.retyped_firstMethods h hnames hfound hname
    refine ⟨hretyped.isWord, ?_⟩
    obtain ⟨again, hagain, hmem⟩ := hretyped.again
    rw [offer?_of_other _ _ _ hhead']
    exact ⟨again, outcome_map_eq_ok_iff.mpr ⟨again, hagain, rfl⟩, hmem⟩
  · cases hoffer

end

/-! ## Accepted edits -/

/-- What is offered for the word of a draft is a word, and is offered again for itself, unless it
belongs to an element of an array. -/
theorem retyped_offer? (h : w.Hosts scope) (hnames : w.NamesWords) {completer : Completer}
    {draft : Draft} {offer : Offer} {name : String} (hword : Draft.IsWord draft.word)
    (hbegins : draft.word.toList <+: name.toList)
    (hoffer : (completer.offer? scope draft).outcome w.replies = .ok (some offer))
    (hname : name ∈ offer.names) :
    Draft.IsWord name ∧ (¬ IsElement w name →
      ∃ again, (completer.offer? scope ⟨draft.words, name⟩).outcome w.replies =
        .ok (some again) ∧ name ∈ again.names) := by
  obtain ⟨words, word⟩ := draft
  by_cases hhead : word.toList.head? = some '$'
  · obtain ⟨typed, htyped⟩ := List.head?_eq_some_iff.mp hhead
    obtain rfl : word = "$" ++ String.ofList typed := by
      apply String.toList_injective
      simp [htyped]
    exact retyped_variable h hnames hword hoffer hname
  · obtain ⟨hisWord, hagain⟩ := retyped_other h hnames hhead hbegins hoffer hname
    exact ⟨hisWord, fun _ => hagain⟩

/-- In a world whose names can be typed as words, accepting a completion of a text that does not end
with a line end is stable: the finished words stay, the completion is the word then, and it is
offered again, in the world as the first request has left it, unless it names an element of an
array. -/
theorem accepted_edit_offered_again (w : World) (scope : Scope) (hscope : w.Hosts scope)
    (hnames : w.NamesWords) (completer : Completer) (text : String)
    (hlast : text.toList.getLast? ≠ some '\n') :
    let run := (completer.edits scope text).run World.host w
    ∃ edits, run.outcome = .ok edits ∧ ∀ edit ∈ edits,
      Draft.ofText (edit.appliedTo text) = ⟨(Draft.ofText text).words, edit.text⟩ ∧
      (¬ IsElement w edit.text →
        ∃ again, ((completer.edits scope (edit.appliedTo text)).run World.host run.state).outcome =
            .ok again ∧
          ⟨edit.text, edit.text.length⟩ ∈ again) := by
  obtain ⟨hoc, calls, hstate⟩ := World.run_of_asks (asks_edits scope completer text) w
  obtain ⟨edits, hedits, heditsWord⟩ := outcome_edits hscope completer text
  refine ⟨edits, hoc.trans hedits, fun edit hedit => ?_⟩
  obtain ⟨offer, hoffer, hname⟩ := exists_offer_of_mem hedits hedit
  obtain ⟨hback, hbegins, -⟩ := heditsWord edit hedit
  obtain ⟨before, hends⟩ := Draft.exists_endsIn hlast
  have hword : Draft.IsWord (Draft.ofText text).word := by
    simpa [Draft.IsWord, Draft.ofText] using hends.word
  obtain ⟨hisWord, hagain⟩ :=
    retyped_offer? hscope hnames hword (by simpa [Draft.ofText] using hbegins) hoffer hname
  have happlied := Draft.ofText_appliedTo hlast hback hbegins hisWord
  refine ⟨happlied, fun helement => ?_⟩
  obtain ⟨again, hagain, hmem⟩ := hagain helement
  rw [hstate, (World.run_of_asks_after (asks_edits scope completer _) w calls).1,
    outcome_edits_eq, happlied, hagain]
  exact ⟨_, rfl, List.mem_map_of_mem hmem⟩

/-- A world with an object whose absolute names are dispatched. -/
def dispatching : World where
  commands := ["::a::run", "::nsf::object::exists"]
  scalars := [("count", "1")]
  arrays := [("box", ["key"])]
  nsf := some [("o", ["get"])]
  namespaces := [Namespace.root, "::a"]

theorem namesWords_dispatching : dispatching.NamesWords :=
  ⟨by decide, by decide, by decide, by decide, by decide⟩

theorem accepted_edit_dispatching :
    let run := ((Completer.of []).edits .main "o ::a:").run World.host dispatching
    run.outcome = .ok [⟨"::a::run", 4⟩] ∧
      Draft.ofText "o ::a::run" = ⟨["o"], "::a::run"⟩ ∧
      ∃ again, (((Completer.of []).edits .main "o ::a::run").run World.host run.state).outcome =
          .ok again ∧
        ⟨"::a::run", 8⟩ ∈ again := by
  have hoffered : (((Completer.of []).edits .main "o ::a:").run World.host dispatching).outcome =
      .ok [⟨"::a::run", 4⟩] := by rfl
  have hother : ¬ IsElement dispatching "::a::run" := by
    rintro ⟨name, -, hname⟩
    simpa using congrArg String.toList hname
  obtain ⟨edits, hedits, haccepted⟩ := accepted_edit_offered_again dispatching .main (by decide)
    namesWords_dispatching (Completer.of []) "o ::a:" (by decide)
  rw [hoffered] at hedits
  cases hedits
  obtain ⟨hdraft, hagain⟩ := haccepted ⟨"::a::run", 4⟩ (by simp)
  exact ⟨hoffered, hdraft, hagain hother⟩

end Completer

end TabCompletion
