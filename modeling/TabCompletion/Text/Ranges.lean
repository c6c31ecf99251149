/-! # Classes of characters

A large class of characters is given by a table of ranges of code points. -/

namespace TabCompletion.Text

/-- Whether the code point of a character is in one of some inclusive ranges. -/
def isWithin (ranges : Array (Nat × Nat)) (c : Char) : Bool :=
  ranges.any fun range => range.1 ≤ c.toNat && c.toNat ≤ range.2

end TabCompletion.Text
