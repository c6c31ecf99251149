import Mathlib.Data.List.DropRight
import Mathlib.Data.List.Infix
import Mathlib.Logic.Function.Iterate
import TabCompletion.Namespace

/-! # Qualifiers of names

A name that holds two colons in a row is divided at its last run of them: the qualifiers stand
before the run, and what follows it holds no separator. Qualifiers of qualifiers, taken as often as
there are any, come to an end. -/

namespace TabCompletion.Namespace

/-- Qualifiers have no colons at their end that could be taken off. -/
@[simp]
theorem trimColons_qualifiers (name : String) : trimColons (qualifiers name) = qualifiers name := by
  rw [qualifiers]
  split
  · rfl
  · simp [trimColons, List.dropWhile_idempotent (· == ':')]

theorem qualifiers_ne_root (name : String) : qualifiers name ≠ root := by
  intro h
  have htrimmed := trimColons_qualifiers name
  rw [h] at htrimmed
  exact absurd htrimmed (by decide)

variable {name before colons tail : String} {cs front rest : List Char}

/-! ## Trimming -/

theorem getLast?_trimColons (name : String) : (trimColons name).toList.getLast? ≠ some ':' := by
  intro hlast
  have hnot := List.head?_dropWhile_not (· == ':') name.toList.reverse
  rw [trimColons, String.toList_ofList, List.getLast?_reverse] at hlast
  rw [hlast] at hnot
  exact absurd hnot (by decide)

/-- What is taken off are colons. -/
theorem exists_trimColons_append (name : String) :
    ∃ colons : String, name = trimColons name ++ colons ∧ ∀ c ∈ colons.toList, c = ':' := by
  refine ⟨String.ofList (name.toList.reverse.takeWhile (· == ':')).reverse, ?_, ?_⟩
  · apply String.toList_injective
    rw [String.toList_append, trimColons, String.toList_ofList, String.toList_ofList,
      ← List.reverse_append, List.takeWhile_append_dropWhile, List.reverse_reverse]
  · intro c hc
    rw [String.toList_ofList, List.mem_reverse] at hc
    have htaken := List.mem_takeWhile_imp hc
    exact eq_of_beq htaken

theorem trimColons_append (hcolons : ∀ c ∈ colons.toList, c = ':')
    (hbefore : before.toList.getLast? ≠ some ':') : trimColons (before ++ colons) = before := by
  have htaken : ∀ c ∈ colons.toList.reverse, (c == ':') = true := by
    simpa using hcolons
  have hkept : before.toList.reverse.dropWhile (· == ':') = before.toList.reverse := by
    apply List.dropWhile_beq_eq_self_of_head?_ne
    rwa [List.head?_reverse]
  rw [trimColons, String.toList_append, List.reverse_append, List.dropWhile_append_of_pos htaken,
    hkept, List.reverse_reverse, String.ofList_toList]

/-! ## The last pair of colons -/

/-- Two colons in a row. -/
def pair : List Char := [':', ':']

/-- A name that holds a separator. -/
def IsQualified (name : String) : Prop :=
  pair <:+: name.toList

instance (name : String) : Decidable (IsQualified name) :=
  inferInstanceAs (Decidable (pair <:+: name.toList))

theorem afterPair?_cons {c : Char} (h : ¬ pair <+: c :: cs) :
    afterPair? (c :: cs) = afterPair? cs := by
  rw [afterPair?]
  rintro rest rfl rfl
  exact h ⟨rest, rfl⟩

theorem afterPair?_eq_none (h : ¬ pair <:+: cs) : afterPair? cs = none := by
  induction cs with
  | nil => rfl
  | cons c cs ih =>
      rw [List.infix_cons_iff, not_or] at h
      rw [afterPair?_cons h.1, ih h.2]

/-- The first pair is found: none starts before it, and none overlaps with it from before. -/
theorem afterPair?_append (h : ¬ pair <:+: front ++ [':']) (rest : List Char) :
    afterPair? (front ++ ':' :: ':' :: rest) = some rest := by
  induction front with
  | nil => rfl
  | cons c front ih =>
      rw [List.cons_append, List.infix_cons_iff, not_or] at h
      -- Two characters are enough to tell, so the rest behind the first colon plays no part.
      have hfirst : ¬ pair <+: c :: (front ++ ':' :: ':' :: rest) := by
        intro hpair
        have hlonger : c :: (front ++ [':']) <+: c :: (front ++ ':' :: ':' :: rest) :=
          ⟨':' :: rest, by simp⟩
        exact h.1 (List.prefix_of_prefix_length_le hpair hlonger (by simp [pair]))
      rw [List.cons_append, afterPair?_cons hfirst, ih h.2]

/-- The pair of colons that stands last has no other one behind it, not even one that it overlaps
with. -/
theorem exists_lastPair (h : pair <:+: cs) :
    ∃ front tail, cs = front ++ ':' :: ':' :: tail ∧ ¬ pair <:+: ':' :: tail := by
  induction cs with
  | nil => simp [pair] at h
  | cons c cs ih =>
      by_cases hlater : pair <:+: cs
      · obtain ⟨front, tail, rfl, htail⟩ := ih hlater
        exact ⟨c :: front, tail, rfl, htail⟩
      · -- The pair that starts here is the last one: its second colon belongs to what holds none.
        obtain ⟨tail, htail⟩ := (List.infix_cons_iff.mp h).resolve_right hlater
        obtain ⟨rfl, rfl⟩ := List.cons.inj htail
        exact ⟨[], tail, rfl, hlater⟩

/-- Qualifiers are what stands before the last pair of colons, without further colons. -/
theorem qualifiers_eq_trimColons (hname : name = before ++ "::" ++ tail)
    (hlast : ¬ IsQualified (":" ++ tail)) : qualifiers name = trimColons before := by
  have hreverse : ¬ pair <:+: tail.toList.reverse ++ [':'] := by
    rw [← List.reverse_infix]
    simpa [IsQualified, pair] using hlast
  have hfound : afterPair? name.toList.reverse = some before.toList.reverse := by
    rw [hname]
    simpa using afterPair?_append hreverse before.toList.reverse
  rw [qualifiers, hfound, trimColons]

/-! ## Division at the last separator -/

/-- A name divided at its last separator: the whole of a run of two or more colons, behind which
there is no other such run. -/
structure Divided (name before colons tail : String) : Prop where
  split : name = before ++ colons ++ tail
  all_colons : ∀ c ∈ colons.toList, c = ':'
  two_le : 2 ≤ colons.length
  before_last : before.toList.getLast? ≠ some ':'
  tail_first : tail.toList.head? ≠ some ':'
  tail_plain : ¬ IsQualified tail

theorem isQualified_colon_append_iff (tail : String) :
    IsQualified (":" ++ tail) ↔ tail.toList.head? = some ':' ∨ IsQualified tail := by
  have hlist : (":" ++ tail).toList = ':' :: tail.toList := by simp
  rw [IsQualified, hlist, List.infix_cons_iff, IsQualified]
  refine or_congr_left ?_
  cases tail.toList with
  | nil => simp [pair]
  | cons c cs => simp [pair, List.cons_prefix_cons, eq_comm]

/-- The last pair of a run of colons. -/
theorem exists_append_pair (hcolons : ∀ c ∈ colons.toList, c = ':') (htwo : 2 ≤ colons.length) :
    ∃ more : String, colons = more ++ "::" ∧ ∀ c ∈ more.toList, c = ':' := by
  obtain ⟨n, hn⟩ := Nat.exists_eq_add_of_le' htwo
  have hreplicate : colons.toList = List.replicate (n + 2) ':' := by
    rw [List.eq_replicate_iff, String.length_toList]
    exact ⟨hn, hcolons⟩
  refine ⟨String.ofList (List.replicate n ':'), ?_, by simp⟩
  apply String.toList_injective
  rw [hreplicate, List.replicate_add]
  simp

namespace Divided

theorem qualifiers_eq (h : Divided name before colons tail) : qualifiers name = before := by
  obtain ⟨more, hcolons, hmore⟩ := exists_append_pair h.all_colons h.two_le
  have hname : name = (before ++ more) ++ "::" ++ tail := by
    rw [h.split, hcolons]
    simp only [String.append_assoc]
  have hlast : ¬ IsQualified (":" ++ tail) := by
    rw [isQualified_colon_append_iff, not_or]
    exact ⟨h.tail_first, h.tail_plain⟩
  rw [qualifiers_eq_trimColons hname hlast, trimColons_append hmore h.before_last]

theorem takeWhile_eq (h : Divided name before colons tail) :
    (colons ++ tail).toList.takeWhile (· == ':') = colons.toList := by
  have htaken : ∀ c ∈ colons.toList, (c == ':') = true := by
    simpa using h.all_colons
  have htail : tail.toList.takeWhile (· == ':') = [] := by
    have hfirst := h.tail_first
    cases htail : tail.toList with
    | nil => rfl
    | cons c cs => simpa [htail] using hfirst
  rw [String.toList_append, List.takeWhile_append_of_pos htaken, htail, List.append_nil]

/-- A name is divided in one way only. -/
theorem unique {before' colons' tail' : String} (h : Divided name before colons tail)
    (h' : Divided name before' colons' tail') :
    before' = before ∧ colons' = colons ∧ tail' = tail := by
  obtain rfl : before' = before := h'.qualifiers_eq.symm.trans h.qualifiers_eq
  have hbehind : colons' ++ tail' = colons ++ tail := by
    have hsame := h'.split.symm.trans h.split
    rw [String.append_assoc, String.append_assoc] at hsame
    exact (String.append_right_inj _).mp hsame
  obtain rfl : colons' = colons := by
    apply String.toList_injective
    rw [← h'.takeWhile_eq, hbehind, h.takeWhile_eq]
  exact ⟨rfl, rfl, (String.append_right_inj _).mp hbehind⟩

end Divided

theorem exists_divided (h : IsQualified name) :
    ∃ colons tail, Divided name (qualifiers name) colons tail := by
  obtain ⟨front, tail, hname, htail⟩ := exists_lastPair h
  have hsplit : name = String.ofList front ++ "::" ++ String.ofList tail := by
    apply String.toList_injective
    simpa using hname
  have hplain : ¬ IsQualified (":" ++ String.ofList tail) := by
    simpa [IsQualified] using htail
  have hqualifiers := qualifiers_eq_trimColons hsplit hplain
  obtain ⟨more, hfront, hmore⟩ := exists_trimColons_append (String.ofList front)
  rw [isQualified_colon_append_iff, not_or] at hplain
  rw [← hqualifiers] at hfront
  refine ⟨more ++ "::", String.ofList tail, ?_, ?_, ?_, ?_, hplain.1, hplain.2⟩
  · rw [← String.append_assoc, ← hfront]
    exact hsplit
  · intro c hc
    rw [String.toList_append, List.mem_append] at hc
    rcases hc with hc | hc
    · exact hmore c hc
    · simpa using hc
  · rw [String.length_append]
    exact Nat.le_add_left 2 more.length
  · rw [hqualifiers]
    exact getLast?_trimColons _

theorem qualifiers_of_not_isQualified (h : ¬ IsQualified name) : qualifiers name = "" := by
  have hnone : afterPair? name.toList.reverse = none := by
    apply afterPair?_eq_none
    rw [← List.reverse_infix]
    simpa [IsQualified, pair] using h
  rw [qualifiers, hnone]

/-! ## Qualifiers of qualifiers -/

theorem length_qualifiers_le (name : String) : (qualifiers name).length ≤ name.length - 2 := by
  by_cases h : IsQualified name
  · obtain ⟨colons, tail, hdivided⟩ := exists_divided h
    have hlength := congrArg String.length hdivided.split
    rw [String.length_append, String.length_append] at hlength
    have htwo := hdivided.two_le
    omega
  · rw [qualifiers_of_not_isQualified h]
    simp

/-- Each step takes off two characters at least, so nothing is left after half as many. -/
theorem iterate_qualifiers_eq_empty (n : ℕ) (h : name.length ≤ 2 * n) :
    qualifiers^[n] name = "" := by
  induction n generalizing name with
  | zero => simpa using h
  | succ n ih =>
      rw [Function.iterate_succ_apply]
      apply ih
      have hle := length_qualifiers_le name
      omega

/-- A name without a separator has no qualifiers. Any other is divided at its last separator in one
way only, and its qualifiers are what stands before. So no qualifiers end in a colon, and the
qualifiers of qualifiers come to an end. -/
theorem divided_qualifiers (name : String) :
    (¬ IsQualified name → qualifiers name = "") ∧
      (IsQualified name → ∃ colons tail, Divided name (qualifiers name) colons tail ∧
        ∀ before' colons' tail', Divided name before' colons' tail' →
          before' = qualifiers name ∧ colons' = colons ∧ tail' = tail) ∧
      (qualifiers name).toList.getLast? ≠ some ':' ∧
      ∃ n ≤ name.length, qualifiers^[n] name = "" := by
  refine ⟨qualifiers_of_not_isQualified, ?_, ?_, ?_⟩
  · intro h
    obtain ⟨colons, tail, hdivided⟩ := exists_divided h
    refine ⟨colons, tail, hdivided, ?_⟩
    intro before' colons' tail' hdivided'
    exact hdivided.unique hdivided'
  · rw [← trimColons_qualifiers]
    exact getLast?_trimColons _
  · exact ⟨name.length, le_rfl, iterate_qualifiers_eq_empty name.length (by omega)⟩

/-- A run of five colons is one separator; single colons are none. -/
theorem divided_qualifiers_runs :
    ¬ IsQualified ":a:" ∧ qualifiers ":a:" = "" ∧
      IsQualified "::a:b:::::c:" ∧ Divided "::a:b:::::c:" "::a:b" ":::::" "c:" ∧
      (∀ before colons tail, Divided "::a:b:::::c:" before colons tail →
        before = "::a:b" ∧ colons = ":::::" ∧ tail = "c:") ∧
      ∃ n ≤ 12, qualifiers^[n] "::a:b:::::c:" = "" := by
  have hsingle : ¬ IsQualified ":a:" := by decide
  have hruns : IsQualified "::a:b:::::c:" := by decide
  have hvalue : qualifiers "::a:b:::::c:" = "::a:b" := by decide
  obtain ⟨-, hdivides, -, hends⟩ := divided_qualifiers "::a:b:::::c:"
  obtain ⟨colons, tail, hdivided, hunique⟩ := hdivides hruns
  have hhere : Divided "::a:b:::::c:" "::a:b" ":::::" "c:" :=
    ⟨by decide, by simp, by decide, by decide, by decide, by decide⟩
  obtain ⟨-, rfl, rfl⟩ := hunique _ _ _ hhere
  rw [hvalue] at hdivided hunique
  exact ⟨hsingle, (divided_qualifiers ":a:").1 hsingle, hruns, hdivided, hunique, hends⟩

end TabCompletion.Namespace
