/-!
# Blank characters

The characters with the Unicode property `White_Space`, and the removal of them from both ends of a
text.
-/

namespace EdgePlane.Text

/-- The ranges of `White_Space`, each given by its first and last code point. -/
def blankRanges : List (Nat × Nat) :=
  [(0x09, 0x0D), (0x20, 0x20), (0x85, 0x85), (0xA0, 0xA0), (0x1680, 0x1680), (0x2000, 0x200A),
    (0x2028, 0x2029), (0x202F, 0x202F), (0x205F, 0x205F), (0x3000, 0x3000)]

/-- Whether a character counts as blank. -/
def isBlank (c : Char) : Bool := blankRanges.any fun r => r.1 ≤ c.toNat && c.toNat ≤ r.2

/-- The characters without the blank ones at both ends. -/
def trimChars (cs : List Char) : List Char :=
  ((cs.dropWhile isBlank).reverse.dropWhile isBlank).reverse

/-- The text without the blank characters at both ends. -/
def trim (s : String) : String := String.ofList (trimChars s.toList)

/-- Whether a text has nothing but blank characters. -/
def allBlank (s : String) : Bool := s.toList.all isBlank

/-- `White_Space` has 25 members. -/
example : (blankRanges.map fun r => r.2 + 1 - r.1).sum = 25 := by decide

end EdgePlane.Text
