import EdgePlane.Text.Blank

/-!
# The mode of a pattern

Flags in a pattern change how the rest of it is read. Two of them matter to whether it is well-formed:
whether blanks and comments are passed over, and whether it is about characters or about bytes.
-/

namespace EdgePlane.Text.Pattern

/-- How a part of a pattern is read. -/
structure Mode where
  /-- Whether blanks are passed over, and comments from a number sign to the end of the line. -/
  isSpaced : Bool := false
  /-- Whether the pattern is about characters. If not, it is about bytes, but may still match only
  whole characters. -/
  isUnicode : Bool := true
  deriving Repr, DecidableEq

/-- What stands behind blanks and comments, where `inComment` says whether a comment is open. -/
def behindBlanks : (inComment : Bool) → List Char → List Char
  | _, [] => []
  | true, c :: rest => behindBlanks (c ≠ '\n') rest
  | false, c :: rest =>
    if isBlank c then behindBlanks false rest
    else if c = '#' then behindBlanks true rest
    else c :: rest

namespace Mode

/-- What stands behind the blanks and comments that the mode passes over. -/
def skip (m : Mode) (cs : List Char) : List Char := if m.isSpaced then behindBlanks false cs else cs

/-- The character that says whether the hyphen in front of it makes a range. Blanks and one number sign
are passed over, but not the comment that it starts. -/
def peek? (m : Mode) (cs : List Char) : Option Char :=
  if m.isSpaced then
    match cs.dropWhile isBlank with
    | '#' :: rest => (rest.dropWhile isBlank).head?
    | rest => rest.head?
  else cs.head?

/-- The names of the flags. -/
def flags : List Char := ['i', 'm', 's', 'U', 'u', 'R', 'x']

/-- What a flag is after the flags `on` were set and the flags `off` were cleared. -/
def updated (flag : Char) (on off : List Char) (before : Bool) : Bool :=
  flag ∈ on || (before && flag ∉ off)

/-- The mode after flags, each of which is named once: those in front of a hyphen are set, and those
behind it are cleared. -/
def change? (m : Mode) (cs : List Char) : Option Mode :=
  let on := cs.takeWhile (· ≠ '-')
  let off := (cs.drop on.length).drop 1
  let named := on ++ off
  if named.all (· ∈ flags) && named.eraseDups.length = named.length &&
      (!off.isEmpty || on.length = cs.length) then
    some ⟨updated 'x' on off m.isSpaced, updated 'u' on off m.isUnicode⟩
  else none

end Mode

end EdgePlane.Text.Pattern
