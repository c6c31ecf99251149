import Mathlib.Data.List.Infix
import TabCompletion.Glob
import TabCompletion.Text.Blank

/-! # Patterns of literal text

A text written into a pattern is read back as itself, character by character, whatever it holds. -/

namespace TabCompletion.Glob

/-! ## Reading what was written -/

/-- A character that is not special stands for itself, whatever follows. -/
theorem tokens_cons_of_not_isSpecial {c : Char} (h : isSpecial c = false) (cs : List Char) :
    tokens (c :: cs) = .literal c :: tokens cs := by
  simp only [isSpecial, Bool.or_eq_false_iff, beq_eq_false_iff_ne] at h
  obtain ⟨⟨hbackslash, hstar⟩, hmark⟩ := h
  simp [tokens, hbackslash]

/-- An escaped text is read as the literals of its characters. -/
theorem tokens_escapeChars_append (cs rest : List Char) :
    tokens (escapeChars cs ++ rest) = cs.map .literal ++ tokens rest := by
  induction cs with
  | nil => rfl
  | cons c cs ih =>
      by_cases h : isSpecial c = true
      · simp only [escapeChars, h, ite_true, List.cons_append, tokens, ih, List.map_cons]
      · have hplain : isSpecial c = false := by simpa using h
        rw [escapeChars, hplain]
        simp only [Bool.false_eq_true, ite_false, List.cons_append, List.map_cons]
        rw [tokens_cons_of_not_isSpecial hplain, ih]

/-! ## Fitting -/

/-- Literals fit a name that begins with their characters, if what follows them fits the rest. -/
theorem fits_literals_append (cs : List Char) (rest : List Token) (name : List Char) :
    fits (cs.map .literal ++ rest) name = true ↔
      ∃ tail, name = cs ++ tail ∧ fits rest tail = true := by
  induction cs generalizing name with
  | nil => simp
  | cons c cs ih =>
      cases name with
      | nil => simp [fits]
      | cons d name =>
          simp only [List.map_cons, List.cons_append, fits, Token.accepts, Bool.and_eq_true,
            beq_iff_eq, ih, List.cons.injEq]
          constructor
          · rintro ⟨rfl, tail, rfl, hfits⟩
            exact ⟨tail, ⟨rfl, rfl⟩, hfits⟩
          · rintro ⟨tail, ⟨rfl, rfl⟩, hfits⟩
            exact ⟨rfl, tail, rfl, hfits⟩

theorem anySuffix_of_nil {p : List Char → Bool} (h : p [] = true) (cs : List Char) :
    anySuffix p cs = true := by
  induction cs with
  | nil => exact h
  | cons c cs ih => simp [anySuffix, ih]

/-- A run of any characters at the end of a pattern fits every rest. -/
theorem fits_anyRun (name : List Char) : fits [.anyRun] name = true := by
  rw [fits]
  exact anySuffix_of_nil rfl name

/-! ## Names -/

/-- The pattern for a typed text admits the names that begin with it, and no others. -/
theorem admits_startingWith_iff (typed name : String) :
    admits (startingWith typed) name = true ↔ typed.toList <+: name.toList := by
  have htokens : tokens (startingWith typed).toList =
      typed.toList.map .literal ++ [.anyRun] := by
    simp only [startingWith, escape, String.toList_append, String.toList_ofList]
    exact tokens_escapeChars_append typed.toList ['*']
  rw [admits, htokens, fits_literals_append]
  constructor
  · rintro ⟨tail, hname, -⟩
    exact ⟨tail, hname.symm⟩
  · rintro ⟨tail, hname⟩
    exact ⟨tail, hname.symm, fits_anyRun tail⟩

/-- Asking with the pattern for a typed text finds the names that begin with it. -/
theorem filter_admits_startingWith (typed : String) (names : List String) :
    names.filter (admits (startingWith typed)) = names.filter (Text.beginsWith typed) := by
  refine List.filter_congr ?_
  intro name _
  rw [Bool.eq_iff_iff, admits_startingWith_iff, Text.beginsWith_iff]

/-- The pattern for a whole name admits this name only. -/
theorem admits_escape_iff (raw name : String) :
    admits (escape raw) name = true ↔ name = raw := by
  have htokens : tokens (escape raw).toList = raw.toList.map .literal ++ [] := by
    simpa [escape, tokens] using tokens_escapeChars_append raw.toList []
  rw [admits, htokens, fits_literals_append]
  simp only [fits, List.isEmpty_iff]
  constructor
  · rintro ⟨tail, hname, rfl⟩
    exact String.toList_inj.mp (by simpa using hname)
  · rintro rfl
    exact ⟨[], by simp, rfl⟩

end TabCompletion.Glob
