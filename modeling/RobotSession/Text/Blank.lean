/-!
# Blanks

The characters that count as white space in texts of all languages.
-/

namespace RobotSession.Text

/-- The ranges of the characters that are white space. -/
def blankRanges : List (Nat × Nat) :=
  [(0x09, 0x0D), (0x20, 0x20), (0x85, 0x85), (0xA0, 0xA0), (0x1680, 0x1680), (0x2000, 0x200A),
   (0x2028, 0x2029), (0x202F, 0x202F), (0x205F, 0x205F), (0x3000, 0x3000)]

def isBlank (c : Char) : Bool :=
  blankRanges.any fun (low, high) => low ≤ c.toNat && c.toNat ≤ high

/-- A text without the blanks at its front. -/
def dropBlanks (cs : List Char) : List Char :=
  cs.dropWhile isBlank

end RobotSession.Text
