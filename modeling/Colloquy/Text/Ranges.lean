/-!
# Ranges of characters

A class of characters is written as a list of inclusive ranges of code points.
-/

namespace Colloquy.Text

/-- Inclusive ranges of code points. -/
abbrev Ranges := List (Nat × Nat)

def Ranges.contains (ranges : Ranges) (c : Char) : Bool :=
  ranges.any fun range => range.1 ≤ c.toNat && c.toNat ≤ range.2

end Colloquy.Text
