import TabCompletion.Proofs.Glob.Language

/-! # Brackets in a typed text

Escaping leaves brackets alone. To a matcher that knows character sets, the pattern for a typed text
is literal but for the sets that the text closes, and it stands for what begins with the text exactly
if there is no such set. -/

namespace TabCompletion.Glob

/-! ## Closing brackets -/

theorem exists_append_of_setRest? {cs rest : List Char} {ranges : List (Char × Char)}
    (h : setRest? cs = some (ranges, rest)) : ∃ front, cs = front ++ ']' :: rest := by
  fun_induction setRest? cs generalizing ranges with
  | case1 => simp at h
  | case2 rest' =>
    obtain ⟨rfl, rfl⟩ := by simpa using h
    exact ⟨[], rfl⟩
  | case3 a b cs _ ih =>
    simp only [Option.bind_eq_bind, Option.bind_eq_some_iff] at h
    obtain ⟨⟨found, tail⟩, hfound, heq⟩ := h
    obtain ⟨-, rfl⟩ := by simpa using heq
    obtain ⟨front, rfl⟩ := ih hfound
    exact ⟨a :: '-' :: b :: front, rfl⟩
  | case4 a cs _ _ ih =>
    simp only [Option.bind_eq_bind, Option.bind_eq_some_iff] at h
    obtain ⟨⟨found, tail⟩, hfound, heq⟩ := h
    obtain ⟨-, rfl⟩ := by simpa using heq
    obtain ⟨front, rfl⟩ := ih hfound
    exact ⟨a :: front, rfl⟩

theorem setRest?_eq_none {cs : List Char} (h : ']' ∉ cs) : setRest? cs = none := by
  rw [Option.eq_none_iff_forall_ne_some]
  rintro ⟨ranges, rest⟩ hread
  obtain ⟨front, rfl⟩ := exists_append_of_setRest? hread
  simp at h

/-- What holds no closing bracket closes no set that was open before it. -/
theorem setRest?_append (cs : List Char) {after : List Char} (h : ']' ∉ after) :
    setRest? (cs ++ after) =
      (setRest? cs).map fun (ranges, rest) => (ranges, rest ++ after) := by
  fun_induction setRest? cs with
  | case1 => simpa using setRest?_eq_none h
  | case2 rest => simp [setRest?]
  | case3 a b cs ha ih =>
    simp only [List.cons_append]
    rw [setRest?.eq_3 _ _ _ ha, ih]
    cases setRest? cs <;> rfl
  | case4 a cs ha hrange ih =>
    -- the text may end within a range, but then nothing is left that could close the set
    by_cases hclosing : ']' ∈ cs
    · have hrange' : ∀ b rest, cs ++ after = '-' :: b :: rest → False := by
        intro b rest heq
        rcases cs with _ | ⟨c, _ | ⟨d, cs⟩⟩
        · simp at hclosing
        · obtain ⟨rfl, -⟩ := List.cons.inj heq
          simp at hclosing
        · obtain ⟨rfl, -⟩ := List.cons.inj heq
          exact hrange d cs rfl
      rw [List.cons_append, setRest?.eq_4 _ _ ha hrange', ih]
      cases setRest? cs <;> rfl
    · have hopen : ']' ∉ a :: cs := by
        rw [List.mem_cons, not_or]
        exact ⟨fun heq => ha heq.symm, hclosing⟩
      have hlost : ']' ∉ a :: cs ++ after := by
        rw [List.mem_append, not_or]
        exact ⟨hopen, h⟩
      have hnone : setRest? cs = none := setRest?_eq_none hclosing
      rw [setRest?_eq_none hlost, hnone]
      rfl

/-- A closing bracket of an escaped text is one of the text. -/
theorem exists_of_escapeChars_eq {cs front rest : List Char}
    (h : escapeChars cs = front ++ ']' :: rest) :
    ∃ before tail, cs = before ++ ']' :: tail ∧ rest = escapeChars tail := by
  induction cs generalizing front with
  | nil => simp [escapeChars] at h
  | cons c cs ih =>
      rw [escapeChars] at h
      split at h
      · next hspecial =>
        rcases front with _ | ⟨a, _ | ⟨b, front⟩⟩
        · simp at h
        · obtain ⟨rfl, rfl, -⟩ := by simpa using h
          simp [isSpecial] at hspecial
        · obtain ⟨-, -, hcs⟩ := by simpa using h
          obtain ⟨before, tail, rfl, hrest⟩ := ih hcs
          exact ⟨c :: before, tail, rfl, hrest⟩
      · rcases front with _ | ⟨a, front⟩
        · obtain ⟨rfl, rfl⟩ := by simpa using h
          exact ⟨[], cs, rfl, rfl⟩
        · obtain ⟨-, hcs⟩ := by simpa using h
          obtain ⟨before, tail, rfl, hrest⟩ := ih hcs
          exact ⟨c :: before, tail, rfl, hrest⟩

/-- What follows a set in an escaped text is an escaped text again. -/
theorem exists_of_setRest?_escapeChars {cs rest : List Char} {ranges : List (Char × Char)}
    (h : setRest? (escapeChars cs) = some (ranges, rest)) :
    ∃ tail, rest = escapeChars tail ∧ tail.length < cs.length := by
  obtain ⟨front, hfront⟩ := exists_append_of_setRest? h
  obtain ⟨before, tail, rfl, hrest⟩ := exists_of_escapeChars_eq hfront
  refine ⟨tail, hrest, ?_⟩
  simp only [List.length_append, List.length_cons]
  omega

/-! ## Reading back -/

/-- A bracket of the text is closed once the text is escaped, and so opens a set. -/
def HoldsSet (raw : List Char) : Prop :=
  ∃ before after, raw = before ++ '[' :: after ∧ (setRest? (escapeChars after)).isSome

/-- How an escaped text is read by who knows sets: as its own characters, but for the sets. -/
inductive ReadBack : List Char → List Token → Prop
  | nil : ReadBack [] []
  | literal {c : Char} {cs : List Char} {steps : List Token} :
      (c = '[' → setRest? (escapeChars cs) = none) → ReadBack cs steps →
      ReadBack (c :: cs) (.literal c :: steps)
  | set {cs tail : List Char} {ranges : List (Char × Char)} {steps : List Token} :
      setRest? (escapeChars cs) = some (ranges, escapeChars tail) → tail.length < cs.length →
      ReadBack tail steps → ReadBack ('[' :: cs) (.oneOf ranges :: steps)

theorem exists_readBack (raw : List Char) : ∃ steps, ReadBack raw steps := by
  induction hlength : raw.length using Nat.strong_induction_on generalizing raw with
  | _ length ih =>
  subst hlength
  cases raw with
  | nil => exact ⟨[], .nil⟩
  | cons c cs =>
      by_cases hset : c = '[' ∧ setRest? (escapeChars cs) ≠ none
      · obtain ⟨rfl, hread⟩ := hset
        obtain ⟨⟨ranges, rest⟩, hread⟩ := Option.ne_none_iff_exists'.mp hread
        obtain ⟨tail, rfl, hshorter⟩ := exists_of_setRest?_escapeChars hread
        obtain ⟨steps, hsteps⟩ := ih tail.length (by simp only [List.length_cons]; omega) tail rfl
        exact ⟨_, .set hread hshorter hsteps⟩
      · obtain ⟨steps, hsteps⟩ := ih cs.length (by simp) cs rfl
        refine ⟨_, .literal ?_ hsteps⟩
        intro hbracket
        exact not_not.mp fun hread => hset ⟨hbracket, hread⟩

variable {raw : List Char} {steps : List Token}

/-- What is written after an escaped text is read by itself, if it cannot close a set. -/
theorem ReadBack.tokensWithSets_append (h : ReadBack raw steps) (after : List Char)
    (hafter : ']' ∉ after) :
    tokensWithSets (escapeChars raw ++ after) = steps ++ tokensWithSets after := by
  induction h with
  | nil => rfl
  | @literal c cs steps hunread _ ih =>
      rw [escapeChars]
      split
      · rw [List.cons_append, List.cons_append, reads_tokensWithSets.escaped, ih, List.cons_append]
      · next hplain =>
        simp only [isSpecial, Bool.or_eq_true, beq_iff_eq, not_or] at hplain
        obtain ⟨⟨hbackslash, hstar⟩, hmark⟩ := hplain
        have hself : Plain setRest? c (escapeChars cs ++ after) := by
          refine ⟨hstar, hmark, fun h => absurd h hbackslash, ?_⟩
          intro hbracket
          rw [setRest?_append _ hafter, hunread hbracket]
          rfl
        rw [List.cons_append, reads_tokensWithSets.plain hself, ih, List.cons_append]
  | @set cs tail ranges steps hread _ _ ih =>
      have hmore : setRest? (escapeChars cs ++ after) =
          some (ranges, escapeChars tail ++ after) := by
        rw [setRest?_append _ hafter, hread]
        rfl
      have hopening : escapeChars ('[' :: cs) = '[' :: escapeChars cs := by
        simp [escapeChars, isSpecial]
      rw [hopening, List.cons_append, (reads_tokensWithSets.oneOf hmore).2, ih, List.cons_append]

/-- A text that is read back takes one character with each step. -/
theorem ReadBack.length_of_fits (h : ReadBack raw steps) {name : List Char}
    (hfits : fits steps name = true) : name.length = steps.length := by
  induction h generalizing name with
  | nil => simpa [fits] using hfits
  | literal _ _ ih =>
      obtain ⟨c, tail, rfl, -, htail⟩ := (fits_cons (by simp)).mp hfits
      simp [ih htail]
  | set _ _ _ ih =>
      obtain ⟨c, tail, rfl, -, htail⟩ := (fits_cons (by simp)).mp hfits
      simp [ih htail]

theorem ReadBack.length_le (h : ReadBack raw steps) : steps.length ≤ raw.length := by
  induction h with
  | nil => exact Nat.le_refl 0
  | literal _ _ ih =>
      simp only [List.length_cons]
      omega
  | set _ hshorter _ ih =>
      simp only [List.length_cons]
      omega

/-- A set is read as fewer steps than it has characters. -/
theorem ReadBack.length_lt (h : ReadBack raw steps) (hset : HoldsSet raw) :
    steps.length < raw.length := by
  induction h with
  | nil =>
      obtain ⟨before, after, heq, -⟩ := hset
      simp at heq
  | @literal c cs steps hunread _ ih =>
      obtain ⟨before, after, heq, hclosed⟩ := hset
      cases before with
      | nil =>
          obtain ⟨rfl, rfl⟩ := List.cons.inj heq
          simp [hunread rfl] at hclosed
      | cons d before =>
          obtain ⟨rfl, rfl⟩ := List.cons.inj heq
          have := ih ⟨before, after, rfl, hclosed⟩
          simp only [List.length_cons]
          omega
  | set _ hshorter hsteps ih =>
      have := hsteps.length_le
      simp only [List.length_cons]
      omega

theorem ReadBack.eq_literals (h : ReadBack raw steps) (hnone : ¬ HoldsSet raw) :
    steps = raw.map .literal := by
  induction h with
  | nil => rfl
  | @literal c cs steps _ _ ih =>
      have hrest : ¬ HoldsSet cs := by
        rintro ⟨before, after, rfl, hclosed⟩
        exact hnone ⟨c :: before, after, rfl, hclosed⟩
      rw [ih hrest, List.map_cons]
  | @set cs tail ranges steps hread _ _ _ => exact absurd ⟨[], cs, rfl, by simp [hread]⟩ hnone

/-! ## Names -/

/-- Some steps and then others fit a name if both fit a part of it. -/
theorem fits_append (first second : List Token) (name : List Char) :
    fits (first ++ second) name = true ↔
      ∃ front tail, name = front ++ tail ∧ fits first front = true ∧ fits second tail = true := by
  induction first generalizing name with
  | nil => simp [fits]
  | cons step first ih =>
      by_cases hrun : step = .anyRun
      · subst hrun
        simp only [List.cons_append, fits_anyRun_cons, ih]
        constructor
        · rintro ⟨skipped, _, rfl, front, tail, rfl, hfront, htail⟩
          exact ⟨skipped ++ front, tail, by simp, ⟨skipped, front, rfl, hfront⟩, htail⟩
        · rintro ⟨_, tail, rfl, ⟨skipped, front, rfl, hfront⟩, htail⟩
          exact ⟨skipped, front ++ tail, by simp, front, tail, rfl, hfront, htail⟩
      · simp only [List.cons_append, fits_cons hrun, ih]
        constructor
        · rintro ⟨c, _, rfl, hc, front, tail, rfl, hfront, htail⟩
          exact ⟨c :: front, tail, rfl, ⟨c, front, rfl, hc, hfront⟩, htail⟩
        · rintro ⟨_, tail, rfl, ⟨c, front, rfl, hc, hfront⟩, htail⟩
          exact ⟨c, front ++ tail, rfl, hc, front, tail, rfl, hfront, htail⟩

theorem tokensWithSets_star : tokensWithSets ['*'] = [.anyRun] := by
  rw [reads_tokensWithSets.anyRun, reads_tokensWithSets.nil]

/-- The patterns made of a text are read as the same steps, but for the run at the end. -/
theorem exists_steps (raw : String) :
    ∃ steps, ReadBack raw.toList steps ∧ tokensWithSets (escape raw).toList = steps ∧
      tokensWithSets (startingWith raw).toList = steps ++ [.anyRun] := by
  obtain ⟨steps, hsteps⟩ := exists_readBack raw.toList
  refine ⟨steps, hsteps, ?_, ?_⟩
  · have hescape := hsteps.tokensWithSets_append [] (by simp)
    simpa [escape, reads_tokensWithSets.nil] using hescape
  · have hstar := hsteps.tokensWithSets_append ['*'] (by decide)
    simpa [startingWith, escape, tokensWithSets_star] using hstar

/-- A text without sets is taken literally at the start of names. -/
theorem admitsWithSets_startingWith_of_not_holdsSet {raw : String} (h : ¬ HoldsSet raw.toList)
    (name : String) :
    admitsWithSets (startingWith raw) name = true ↔ raw.toList <+: name.toList := by
  obtain ⟨steps, hsteps, -, hstarting⟩ := exists_steps raw
  rw [admitsWithSets, hstarting, hsteps.eq_literals h, fits_literals_append]
  constructor
  · rintro ⟨tail, hname, -⟩
    exact ⟨tail, hname.symm⟩
  · rintro ⟨tail, hname⟩
    exact ⟨tail, hname.symm, fits_anyRun tail⟩

/-- The pattern for a text with a set does not fit the text, or it fits shorter names too. -/
theorem exists_of_holdsSet {raw : String} (h : HoldsSet raw.toList) :
    ∃ name : String,
      ¬ (admitsWithSets (startingWith raw) name = true ↔ raw.toList <+: name.toList) := by
  obtain ⟨steps, hsteps, -, hstarting⟩ := exists_steps raw
  by_cases hself : admitsWithSets (startingWith raw) raw = true
  · rw [admitsWithSets, hstarting, fits_append] at hself
    obtain ⟨front, tail, -, hfront, -⟩ := hself
    refine ⟨String.ofList front, ?_⟩
    rw [String.toList_ofList]
    intro hiff
    have hfits : admitsWithSets (startingWith raw) (String.ofList front) = true := by
      rw [admitsWithSets, hstarting, String.toList_ofList, fits_append]
      exact ⟨front, [], by simp, hfront, fits_anyRun []⟩
    have hlength := (hiff.mp hfits).length_le
    have hfewer := hsteps.length_lt h
    rw [hsteps.length_of_fits hfront] at hlength
    omega
  · exact ⟨raw, fun hiff => hself (hiff.mpr List.prefix_rfl)⟩

/-- The matcher that knows sets admits exactly the names that a pattern denotes. The pattern for a
typed text admits what begins with something that the escaped text admits; and this is to begin with
the text itself exactly if no bracket of the text is closed. -/
theorem admitsWithSets_exactly :
    (∀ pattern name : String,
      admitsWithSets pattern name = true ↔ Denotes setRest? pattern.toList name.toList) ∧
    ∀ raw : String,
      (∀ name : String, admitsWithSets (startingWith raw) name = true ↔
        ∃ front : String,
          front.toList <+: name.toList ∧ admitsWithSets (escape raw) front = true) ∧
      ((∀ name : String,
        admitsWithSets (startingWith raw) name = true ↔ raw.toList <+: name.toList) ↔
          ¬ HoldsSet raw.toList) := by
  refine ⟨fun pattern name => fits_iff_denotes reads_tokensWithSets, fun raw => ⟨?_, ?_⟩⟩
  · intro name
    obtain ⟨steps, -, hescape, hstarting⟩ := exists_steps raw
    simp only [admitsWithSets, hstarting, hescape, fits_append]
    constructor
    · rintro ⟨front, tail, hname, hfront, -⟩
      exact ⟨String.ofList front, by simp [hname], by simpa using hfront⟩
    · rintro ⟨front, ⟨tail, hname⟩, hfront⟩
      exact ⟨front.toList, tail, hname.symm, hfront, fits_anyRun tail⟩
  · constructor
    · intro hliteral hset
      obtain ⟨name, hname⟩ := exists_of_holdsSet hset
      exact hname (hliteral name)
    · exact admitsWithSets_startingWith_of_not_holdsSet

/-- Of the elements `a[0]` and `a0`, the pattern for `a[0]` finds the other one. -/
theorem not_forall_admitsWithSets :
    ¬ ∀ raw name : String,
      admitsWithSets (startingWith raw) name = true ↔ raw.toList <+: name.toList := by
  intro h
  have hother : admitsWithSets (startingWith "a[0]") "a0" = true := by decide +kernel
  have hbegins := (h "a[0]" "a0").mp hother
  revert hbegins
  decide

end TabCompletion.Glob
