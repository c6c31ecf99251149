import Mathlib.Data.List.Infix
import TabCompletion.Offer

/-! # The stem of several names

What several texts begin with in common is their greatest lower bound in the order of prefixes. -/

namespace TabCompletion

open Text

/-! ## Two texts -/

theorem meet_prefix_left (a b : List Char) : meet a b <+: a := by
  induction a generalizing b with
  | nil => simp [meet]
  | cons x xs ih =>
      cases b with
      | nil => simp [meet]
      | cons y ys =>
          rw [meet]
          split
          · exact List.cons_prefix_cons.mpr ⟨rfl, ih ys⟩
          · exact List.nil_prefix

theorem meet_prefix_right (a b : List Char) : meet a b <+: b := by
  induction a generalizing b with
  | nil => simp [meet]
  | cons x xs ih =>
      cases b with
      | nil => simp [meet]
      | cons y ys =>
          rw [meet]
          split
          · rename_i hxy
            exact List.cons_prefix_cons.mpr ⟨hxy, ih ys⟩
          · exact List.nil_prefix

theorem prefix_meet {stem a b : List Char} (ha : stem <+: a) (hb : stem <+: b) :
    stem <+: meet a b := by
  induction stem generalizing a b with
  | nil => exact List.nil_prefix
  | cons c stem ih =>
      obtain ⟨as, rfl⟩ := ha
      obtain ⟨bs, rfl⟩ := hb
      simp only [List.cons_append, meet, ite_true, List.cons_prefix_cons, true_and]
      exact ih (List.prefix_append stem as) (List.prefix_append stem bs)

/-! ## Any number of texts -/

theorem foldl_meet_prefix (first : List Char) (rest : List (List Char)) :
    rest.foldl meet first <+: first ∧ ∀ text ∈ rest, rest.foldl meet first <+: text := by
  induction rest generalizing first with
  | nil => simp
  | cons next rest ih =>
      obtain ⟨hfirst, hrest⟩ := ih (meet first next)
      refine ⟨hfirst.trans (meet_prefix_left first next), ?_⟩
      intro text htext
      rcases List.mem_cons.mp htext with rfl | htext
      · exact hfirst.trans (meet_prefix_right first text)
      · exact hrest text htext

theorem prefix_foldl_meet {stem first : List Char} {rest : List (List Char)}
    (hfirst : stem <+: first) (hrest : ∀ text ∈ rest, stem <+: text) :
    stem <+: rest.foldl meet first := by
  induction rest generalizing first with
  | nil => exact hfirst
  | cons next rest ih =>
      refine ih (prefix_meet hfirst (hrest next (by simp))) ?_
      intro text htext
      exact hrest text (by simp [htext])

theorem meetAll_prefix {texts : List (List Char)} {text : List Char} (h : text ∈ texts) :
    meetAll texts <+: text := by
  cases texts with
  | nil => simp at h
  | cons first rest =>
      obtain ⟨hfirst, hrest⟩ := foldl_meet_prefix first rest
      rcases List.mem_cons.mp h with rfl | h
      · exact hfirst
      · exact hrest text h

theorem prefix_meetAll {stem : List Char} {texts : List (List Char)} (hne : texts ≠ [])
    (h : ∀ text ∈ texts, stem <+: text) : stem <+: meetAll texts := by
  cases texts with
  | nil => exact absurd rfl hne
  | cons first rest =>
      refine prefix_foldl_meet (h first (by simp)) ?_
      intro text htext
      exact h text (by simp [htext])

/-! ## Candidates -/

variable {typed : String} {candidates : List String}

theorem toList_sharedStem (h : candidates.filter (beginsWith typed) ≠ []) :
    (sharedStem candidates typed).toList =
      meetAll ((candidates.filter (beginsWith typed)).map String.toList) := by
  rw [sharedStem]
  split
  · contradiction
  · exact String.toList_ofList

/-- The stem begins every candidate that begins with what was typed. -/
theorem sharedStem_prefix {name : String} (hmem : name ∈ candidates)
    (hname : beginsWith typed name = true) :
    (sharedStem candidates typed).toList <+: name.toList := by
  have hfound : name ∈ candidates.filter (beginsWith typed) := List.mem_filter.mpr ⟨hmem, hname⟩
  rw [toList_sharedStem (List.ne_nil_of_mem hfound)]
  exact meetAll_prefix (List.mem_map_of_mem hfound)

/-- Whatever begins all candidates that begin with what was typed, begins the stem. -/
theorem prefix_sharedStem {stem : List Char}
    (hne : candidates.filter (beginsWith typed) ≠ [])
    (h : ∀ name ∈ candidates, beginsWith typed name = true → stem <+: name.toList) :
    stem <+: (sharedStem candidates typed).toList := by
  rw [toList_sharedStem hne]
  refine prefix_meetAll (by simpa using hne) ?_
  intro text htext
  obtain ⟨name, hname, rfl⟩ := List.mem_map.mp htext
  obtain ⟨hmem, hbegins⟩ := List.mem_filter.mp hname
  exact h name hmem hbegins

/-! ## Stems -/

/-- A text is the stem of some names if it begins all of them, and is itself begun by whatever else
begins all of them. -/
structure IsStem (names : List String) (stem : String) : Prop where
  begins : ∀ name ∈ names, stem.toList <+: name.toList
  longest : ∀ other : String, (∀ name ∈ names, other.toList <+: name.toList) →
    other.toList <+: stem.toList

theorem IsStem.of_perm {names names' : List String} {stem : String} (h : IsStem names stem)
    (hperm : names.Perm names') : IsStem names' stem := by
  constructor
  · intro name hname
    exact h.begins name (hperm.mem_iff.mpr hname)
  · intro other hother
    exact h.longest other fun name hname => hother name (hperm.mem_iff.mp hname)

theorem IsStem.eq {names : List String} {stem stem' : String} (h : IsStem names stem)
    (h' : IsStem names stem') : stem = stem' := by
  have hbegins : stem.toList <+: stem'.toList := h'.longest stem h.begins
  have hlength := (h.longest stem' h'.begins).length_le
  exact String.toList_injective (hbegins.eq_of_length_le hlength)

theorem isStem_sharedStem (hbegun : candidates.filter (beginsWith typed) ≠ []) :
    IsStem (candidates.filter (beginsWith typed)) (sharedStem candidates typed) := by
  constructor
  · intro name hname
    obtain ⟨hmem, hbegins⟩ := List.mem_filter.mp hname
    exact sharedStem_prefix hmem hbegins
  · intro other hother
    refine prefix_sharedStem hbegun ?_
    intro name hmem hbegins
    exact hother name (List.mem_filter.mpr ⟨hmem, hbegins⟩)

/-- Of names that all go on from what was typed, the stem is that of all of them. -/
theorem isStem_sharedStem_of_all (hne : candidates ≠ [])
    (h : ∀ name ∈ candidates, typed.toList <+: name.toList) :
    IsStem candidates (sharedStem candidates typed) := by
  have hall : candidates.filter (beginsWith typed) = candidates :=
    List.filter_eq_self.mpr fun name hname => beginsWith_iff.mpr (h name hname)
  have hbegun : candidates.filter (beginsWith typed) ≠ [] := by rwa [hall]
  have hstem := isStem_sharedStem hbegun
  rwa [hall] at hstem

theorem sharedStem_of_filter_eq_nil (h : candidates.filter (beginsWith typed) = []) :
    sharedStem candidates typed = typed := by
  simp [sharedStem, h]

/-- Even where no candidate does, the stem goes on from what was typed. -/
theorem typed_prefix_sharedStem (candidates : List String) (typed : String) :
    typed.toList <+: (sharedStem candidates typed).toList := by
  by_cases hbegun : candidates.filter (beginsWith typed) = []
  · rw [sharedStem_of_filter_eq_nil hbegun]
  · exact prefix_sharedStem hbegun fun name _ hname => beginsWith_iff.mp hname

end TabCompletion
