/-! # UTF-16 units

Some formats count and number the parts of a text in units of sixteen bits. A character beyond that
range is given by a pair of units that stand for nothing on their own. -/

namespace TabCompletion.Text

/-- The units of a character: one, or a pair of surrogates. -/
def units (c : Char) : List Nat :=
  if c.toNat < 0x10000 then [c.toNat]
  else [0xd800 + (c.toNat - 0x10000) / 0x400, 0xdc00 + (c.toNat - 0x10000) % 0x400]

/-- The character of a number, if there is one; surrogates have none. -/
def charOf? (n : Nat) : Option Char :=
  if h : n.isValidChar then some (Char.ofNatAux n h) else none

/-- The character that two surrogates make together. -/
def pairedChar? (high low : Nat) : Option Char :=
  if 0xd800 ≤ high ∧ high < 0xdc00 ∧ 0xdc00 ≤ low ∧ low < 0xe000 then
    charOf? (0x10000 + (high - 0xd800) * 0x400 + (low - 0xdc00))
  else
    none

/-- The text that a sequence of units makes; nothing if a surrogate stands alone. -/
def ofUnits? : List Nat → Option (List Char)
  | [] => some []
  | unit :: rest =>
    match charOf? unit with
    | some c => (c :: ·) <$> ofUnits? rest
    | none =>
      match rest with
      | [] => none
      | low :: others => do return (← pairedChar? unit low) :: (← ofUnits? others)

end TabCompletion.Text
