import TabCompletion.Glob

/-! # Glob patterns with character sets

The larger pattern language, in which brackets enclose a set of characters of which one is to be
matched: `[a-z_]` stands for a small letter or an underscore. A bracket that is never closed stands
for itself, and inside a set neither a backslash nor any other character is special. -/

namespace TabCompletion.Glob

/-- The characters from one to another, whichever comes first. -/
def spanned (a b : Char) : Char × Char :=
  if a ≤ b then (a, b) else (b, a)

/-- The ranges of a set after its opening bracket, and what follows the closing one. -/
def setRest? : List Char → Option (List (Char × Char) × List Char)
  | [] => none
  | ']' :: rest => some ([], rest)
  | a :: '-' :: b :: cs => do
    let (ranges, rest) ← setRest? cs
    return (spanned a b :: ranges, rest)
  | a :: cs => do
    let (ranges, rest) ← setRest? cs
    return ((a, a) :: ranges, rest)

theorem length_of_setRest? {cs rest : List Char} {ranges : List (Char × Char)}
    (h : setRest? cs = some (ranges, rest)) : rest.length < cs.length := by
  fun_induction setRest? cs generalizing ranges with
  | case1 => simp at h
  | case2 => simp_all
  | case3 a b cs _ ih =>
    simp only [Option.bind_eq_bind, Option.bind_eq_some_iff] at h
    obtain ⟨⟨found, tail⟩, hfound, heq⟩ := h
    obtain ⟨rfl, rfl⟩ := by simpa using heq
    have := ih hfound
    simp only [List.length_cons]
    omega
  | case4 a cs _ _ ih =>
    simp only [Option.bind_eq_bind, Option.bind_eq_some_iff] at h
    obtain ⟨⟨found, tail⟩, hfound, heq⟩ := h
    obtain ⟨rfl, rfl⟩ := by simpa using heq
    have := ih hfound
    simp only [List.length_cons]
    omega

/-- The steps of a pattern that may hold sets. -/
def tokensWithSets : List Char → List Token
  | [] => []
  | '\\' :: c :: cs => .literal c :: tokensWithSets cs
  | '*' :: cs => .anyRun :: tokensWithSets cs
  | '?' :: cs => .anyChar :: tokensWithSets cs
  | '[' :: cs =>
    match h : setRest? cs with
    | some (ranges, rest) =>
      have := length_of_setRest? h
      .oneOf ranges :: tokensWithSets rest
    | none => .literal '[' :: tokensWithSets cs
  | c :: cs => .literal c :: tokensWithSets cs
termination_by cs => cs.length

/-- Whether a pattern that may hold sets fits a name. -/
def admitsWithSets (pattern name : String) : Bool :=
  fits (tokensWithSets pattern.toList) name.toList

end TabCompletion.Glob
