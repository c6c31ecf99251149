/-! # Shown texts

What is shown of a marked-up text, and where it asks for a look that cannot be drawn. -/

namespace TabCompletion.Screen

/-- A character on the screen. -/
structure Glyph where
  char : Char
  /-- Whether it is asked to have a look that cannot be drawn. -/
  isFlawed : Bool := false
deriving DecidableEq, Repr

structure Shown where
  glyphs : List Glyph
  /-- The places at which no character is asked to have a look that cannot be drawn, each with the
  number of the characters before it. -/
  gaps : List Nat := []
deriving DecidableEq, Repr

/-- A text with some stretches, each from a position up to another, whose looks cannot be drawn. -/
def Shown.ofFlaws (text : List Char) (flaws : List (Nat × Nat)) : Shown where
  glyphs := text.zipIdx.map fun (c, position) =>
    ⟨c, flaws.any fun flaw => flaw.1 ≤ position && position < flaw.2⟩
  gaps := flaws.filterMap fun flaw => if flaw.1 = flaw.2 then some flaw.1 else none

def Shown.text (shown : Shown) : List Char :=
  shown.glyphs.map Glyph.char

end TabCompletion.Screen
