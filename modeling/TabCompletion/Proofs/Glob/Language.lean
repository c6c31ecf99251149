import TabCompletion.Glob.Sets
import TabCompletion.Proofs.Glob.Literal

/-! # The language of patterns

What a pattern denotes is said by rules that read it from the left, with or without character sets.
The matchers decide these rules, and escaping is exact for them. -/

namespace TabCompletion.Glob

/-! ## Rules -/

/-- How a set is read after its opening bracket: its ranges and what follows, if it is closed. -/
abbrev SetReader : Type :=
  List Char → Option (List (Char × Char) × List Char)

/-- The reader of the language that has no sets. -/
def noSets : SetReader :=
  fun _ => none

/-- A character of a pattern that stands for itself before what follows: a backslash only at the
very end, a bracket only if no set is read after it. -/
structure Plain (readSet : SetReader) (c : Char) (rest : List Char) : Prop where
  ne_star : c ≠ '*'
  ne_mark : c ≠ '?'
  last_of_backslash : c = '\\' → rest = []
  unread_of_bracket : c = '[' → readSet rest = none

/-- The names that a pattern denotes. -/
inductive Denotes (readSet : SetReader) : List Char → List Char → Prop
  | nil : Denotes readSet [] []
  | escaped (c : Char) {pattern name : List Char} : Denotes readSet pattern name →
      Denotes readSet ('\\' :: c :: pattern) (c :: name)
  | anyRun (skipped : List Char) {pattern name : List Char} : Denotes readSet pattern name →
      Denotes readSet ('*' :: pattern) (skipped ++ name)
  | anyChar (c : Char) {pattern name : List Char} : Denotes readSet pattern name →
      Denotes readSet ('?' :: pattern) (c :: name)
  | oneOf {c : Char} {ranges : List (Char × Char)} {pattern rest name : List Char} :
      readSet pattern = some (ranges, rest) → (∃ range ∈ ranges, range.1 ≤ c ∧ c ≤ range.2) →
      Denotes readSet rest name → Denotes readSet ('[' :: pattern) (c :: name)
  | plain {c : Char} {pattern name : List Char} : Plain readSet c pattern →
      Denotes readSet pattern name → Denotes readSet (c :: pattern) (c :: name)

/-! ## Steps -/

theorem anySuffix_eq_true_iff {p : List Char → Bool} {cs : List Char} :
    anySuffix p cs = true ↔ ∃ skipped tail, cs = skipped ++ tail ∧ p tail = true := by
  induction cs with
  | nil => simp [anySuffix]
  | cons c cs ih =>
      simp only [anySuffix, Bool.or_eq_true, ih]
      constructor
      · rintro (h | ⟨skipped, tail, rfl, h⟩)
        · exact ⟨[], c :: cs, rfl, h⟩
        · exact ⟨c :: skipped, tail, rfl, h⟩
      · rintro ⟨skipped, tail, heq, h⟩
        cases skipped with
        | nil =>
            subst heq
            exact .inl h
        | cons d skipped =>
            obtain ⟨rfl, rfl⟩ := List.cons.inj heq
            exact .inr ⟨skipped, tail, rfl, h⟩

variable {rest : List Token} {name : List Char}

theorem fits_anyRun_cons :
    fits (.anyRun :: rest) name = true ↔
      ∃ skipped tail, name = skipped ++ tail ∧ fits rest tail = true := by
  rw [fits]
  exact anySuffix_eq_true_iff

/-- Every step but a run of characters takes exactly one. -/
theorem fits_cons {step : Token} (h : step ≠ .anyRun) :
    fits (step :: rest) name = true ↔
      ∃ c tail, name = c :: tail ∧ step.accepts c = true ∧ fits rest tail = true := by
  cases name with
  | nil => simp [fits]
  | cons c cs => simp [fits]

/-! ## Reading -/

/-- A way to read patterns as steps that follows the rules. -/
structure Reads (readSet : SetReader) (read : List Char → List Token) : Prop where
  nil : read [] = []
  escaped : ∀ c pattern, read ('\\' :: c :: pattern) = .literal c :: read pattern
  anyRun : ∀ pattern, read ('*' :: pattern) = .anyRun :: read pattern
  anyChar : ∀ pattern, read ('?' :: pattern) = .anyChar :: read pattern
  oneOf : ∀ {pattern ranges rest}, readSet pattern = some (ranges, rest) →
    rest.length < pattern.length ∧ read ('[' :: pattern) = .oneOf ranges :: read rest
  plain : ∀ {c pattern}, Plain readSet c pattern → read (c :: pattern) = .literal c :: read pattern

theorem reads_tokens : Reads noSets tokens where
  nil := rfl
  escaped c pattern := by simp [tokens]
  anyRun pattern := by simp [tokens]
  anyChar pattern := by simp [tokens]
  oneOf h := by simp [noSets] at h
  plain {c pattern} h := by
    obtain ⟨hstar, hmark, hlast, -⟩ := h
    rw [tokens] <;> grind

theorem reads_tokensWithSets : Reads setRest? tokensWithSets where
  nil := by simp [tokensWithSets]
  escaped c pattern := by simp [tokensWithSets]
  anyRun pattern := by simp [tokensWithSets]
  anyChar pattern := by simp [tokensWithSets]
  oneOf {pattern ranges rest} h := by
    refine ⟨length_of_setRest? h, ?_⟩
    rw [tokensWithSets]
    split
    · next found tail hfound =>
      obtain ⟨rfl, rfl⟩ := by simpa [h] using hfound
      rfl
    · next hnone => simp [h] at hnone
  plain {c pattern} h := by
    obtain ⟨hstar, hmark, hlast, hunread⟩ := h
    by_cases hbracket : c = '['
    · subst hbracket
      rw [tokensWithSets]
      split
      · next found tail hfound => simp [hunread rfl] at hfound
      · rfl
    · rw [tokensWithSets] <;> grind

/-! ## Deciding -/

/-- A character of a pattern is plain, or one of the rules for the others applies to it. -/
theorem plain_or (readSet : SetReader) (c : Char) (pattern : List Char) :
    Plain readSet c pattern ∨ (∃ d rest, c = '\\' ∧ pattern = d :: rest) ∨ c = '*' ∨ c = '?' ∨
      ∃ ranges rest, c = '[' ∧ readSet pattern = some (ranges, rest) := by
  by_cases hstar : c = '*'
  · exact .inr (.inr (.inl hstar))
  by_cases hmark : c = '?'
  · exact .inr (.inr (.inr (.inl hmark)))
  by_cases hbackslash : c = '\\' ∧ pattern ≠ []
  · obtain ⟨d, rest, hpattern⟩ := List.exists_cons_of_ne_nil hbackslash.2
    exact .inr (.inl ⟨d, rest, hbackslash.1, hpattern⟩)
  by_cases hbracket : c = '[' ∧ readSet pattern ≠ none
  · obtain ⟨⟨ranges, rest⟩, hread⟩ := Option.ne_none_iff_exists'.mp hbracket.2
    exact .inr (.inr (.inr (.inr ⟨ranges, rest, hbracket.1, hread⟩)))
  · refine .inl ⟨hstar, hmark, ?_, ?_⟩
    · intro h
      exact not_not.mp fun hne => hbackslash ⟨h, hne⟩
    · intro h
      exact not_not.mp fun hne => hbracket ⟨h, hne⟩

variable {readSet : SetReader} {read : List Char → List Token}

theorem Denotes.fits {pattern name : List Char} (h : Denotes readSet pattern name)
    (hread : Reads readSet read) : fits (read pattern) name = true := by
  induction h with
  | nil => simp [hread.nil, Glob.fits]
  | escaped c _ ih => simp [hread.escaped, Glob.fits, Token.accepts, ih]
  | anyRun skipped _ ih =>
      rw [hread.anyRun, fits_anyRun_cons]
      exact ⟨skipped, _, rfl, ih⟩
  | anyChar c _ ih => simp [hread.anyChar, Glob.fits, Token.accepts, ih]
  | oneOf hset hmem _ ih =>
      rw [(hread.oneOf hset).2, fits_cons (by simp)]
      exact ⟨_, _, rfl, by simpa [Token.accepts] using hmem, ih⟩
  | plain hplain _ ih => simp [hread.plain hplain, Glob.fits, Token.accepts, ih]

theorem denotes_of_fits (hread : Reads readSet read) {pattern name : List Char}
    (h : fits (read pattern) name = true) : Denotes readSet pattern name := by
  -- a set is read as one step, so that what follows it is shorter, but no tail by one character
  induction hlength : pattern.length using Nat.strong_induction_on generalizing pattern name with
  | _ length ih =>
  subst hlength
  cases pattern with
  | nil =>
      rw [hread.nil] at h
      obtain rfl : name = [] := by simpa [Glob.fits] using h
      exact .nil
  | cons c pattern =>
      rcases plain_or readSet c pattern with
        hplain | ⟨d, rest, rfl, rfl⟩ | rfl | rfl | ⟨ranges, rest, rfl, hset⟩
      · rw [hread.plain hplain, fits_cons (by simp)] at h
        obtain ⟨d, tail, rfl, haccepts, htail⟩ := h
        obtain rfl : c = d := by simpa [Token.accepts] using haccepts
        exact .plain hplain (ih _ (by simp) htail rfl)
      · rw [hread.escaped, fits_cons (by simp)] at h
        obtain ⟨c, tail, rfl, haccepts, htail⟩ := h
        obtain rfl : d = c := by simpa [Token.accepts] using haccepts
        exact .escaped d (ih _ (by simp only [List.length_cons]; omega) htail rfl)
      · rw [hread.anyRun, fits_anyRun_cons] at h
        obtain ⟨skipped, tail, rfl, htail⟩ := h
        exact .anyRun skipped (ih _ (by simp) htail rfl)
      · rw [hread.anyChar, fits_cons (by simp)] at h
        obtain ⟨c, tail, rfl, -, htail⟩ := h
        exact .anyChar c (ih _ (by simp) htail rfl)
      · obtain ⟨hshorter, hsteps⟩ := hread.oneOf hset
        rw [hsteps, fits_cons (by simp)] at h
        obtain ⟨c, tail, rfl, haccepts, htail⟩ := h
        have hmem : ∃ range ∈ ranges, range.1 ≤ c ∧ c ≤ range.2 := by
          simpa [Token.accepts] using haccepts
        exact .oneOf hset hmem (ih _ (by simp only [List.length_cons]; omega) htail rfl)

/-- Reading a pattern as steps and fitting these decides what it denotes. -/
theorem fits_iff_denotes (hread : Reads readSet read) {pattern name : List Char} :
    fits (read pattern) name = true ↔ Denotes readSet pattern name :=
  ⟨denotes_of_fits hread, fun h => h.fits hread⟩

/-! ## Escaping -/

/-- The matcher admits exactly the names that a pattern denotes; and of the patterns made of a text,
that for what begins with it admits the names that do, and the escaped text admits itself alone,
whatever characters they hold. -/
theorem admits_exactly :
    (∀ pattern name : String,
      admits pattern name = true ↔ Denotes noSets pattern.toList name.toList) ∧
    ∀ raw name : String,
      (admits (startingWith raw) name = true ↔ raw.toList <+: name.toList) ∧
      (admits (escape raw) name = true ↔ name = raw) := by
  constructor
  · intro pattern name
    exact fits_iff_denotes reads_tokens
  · intro raw name
    exact ⟨admits_startingWith_iff raw name, admits_escape_iff raw name⟩

end TabCompletion.Glob
