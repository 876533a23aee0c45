import EdgePlane.Text.Hex
import EdgePlane.Text.Pattern.Mode

/-!
# Escapes

What stands behind a backslash in a pattern.
-/

namespace EdgePlane.Text.Pattern

/-- What a backslash and the text behind it mean. -/
inductive Escape
  /-- A character. With `isByte` it was given by the two digits of a byte. -/
  | character (c : Char) (isByte : Bool)
  /-- Digits, blanks or the characters of words, or all others. -/
  | set (isNegated : Bool)
  /-- The characters of a general category, or all others. -/
  | category
  /-- The start or the end of the text. -/
  | edge
  /-- A place where a word starts or ends, or another place. -/
  | wordEdge
  deriving Repr, DecidableEq

/-- Whether a character that is neither a letter nor a digit stands for itself behind a backslash. -/
def isEscapable (c : Char) : Bool := c.toNat < 0x80 && !c.isAlphanum && c ≠ '<' && c ≠ '>'

/-- The number that a fixed number of hexadecimal digits adds to `value`, and what follows them. -/
def hexNumber? (m : Mode) : (count value : Nat) → List Char → Option (Nat × List Char)
  | 0, value, cs => some (value, cs)
  | _ + 1, _, [] => none
  | count + 1, value, c :: rest => do
    hexNumber? m count (value * 16 + (← hexValue? c)) (m.skip rest)

/-- A character given by a fixed number of hexadecimal digits. -/
def hexChar? (m : Mode) (count : Nat) (cs : List Char) : Option (Escape × List Char) := do
  let (value, rest) ← hexNumber? m count 0 (m.skip cs)
  if value.isValidChar then some (.character (Char.ofNat value) (count = 2), rest) else none

/-- The general categories with a name of one letter, which is of either case. -/
def categories : List Char := ['c', 'l', 'm', 'n', 'p', 's', 'z']

/-- Reads what stands behind a backslash. -/
def escape? (m : Mode) : List Char → Option (Escape × List Char)
  | [] => none
  | 'x' :: rest => hexChar? m 2 rest
  | 'u' :: rest => hexChar? m 4 rest
  | 'U' :: rest => hexChar? m 8 rest
  | 'a' :: rest => some (.character '\x07' false, rest)
  | 'f' :: rest => some (.character '\x0c' false, rest)
  | 't' :: rest => some (.character '\t' false, rest)
  | 'n' :: rest => some (.character '\n' false, rest)
  | 'r' :: rest => some (.character '\r' false, rest)
  | 'v' :: rest => some (.character '\x0b' false, rest)
  | c :: rest =>
    if c = 'p' ∨ c = 'P' then
      match m.skip rest with
      | name :: rest => if name.toLower ∈ categories then some (.category, m.skip rest) else none
      | [] => none
    else if c ∈ ['d', 's', 'w'] then some (.set false, rest)
    else if c ∈ ['D', 'S', 'W'] then some (.set true, rest)
    else if c = 'A' ∨ c = 'z' then some (.edge, rest)
    else if c ∈ ['b', 'B', '<', '>'] then some (.wordEdge, rest)
    else if isEscapable c then some (.character c false, rest)
    else none

namespace Escape

/-- Whether an escape may stand outside of sets. A pattern about bytes has no other characters than
ASCII and none of their categories. The edges of words are not known to a pattern about characters. -/
def isAllowed (m : Mode) : Escape → Bool
  | .character c isByte => m.isUnicode || !isByte || c.toNat < 0x80
  | .set isNegated => m.isUnicode || !isNegated
  | .category => m.isUnicode
  | .edge => true
  | .wordEdge => !m.isUnicode

/-- Whether an escape may be a member of a set. -/
def isMember (m : Mode) : Escape → Bool
  | .character c _ => m.isUnicode || c.toNat < 0x80
  | .set isNegated => m.isUnicode || !isNegated
  | .category => m.isUnicode
  | .edge => false
  | .wordEdge => false

/-- The character, if the escape means one. -/
def character? : Escape → Option Char
  | .character c _ => some c
  | _ => none

end Escape

end EdgePlane.Text.Pattern
