import EdgePlane.Text.Pattern.Group
import EdgePlane.Text.Pattern.Set

/-!
# Patterns

Whether a text is a well-formed regular expression: groups and sets of characters are closed, every
repetition has something to repeat, every escape has a meaning, no two groups have the same name, and
parts are not too deep in each other. Repetitions with a count do not belong to these patterns.
-/

namespace EdgePlane.Text.Pattern

/-- A group that is open, or the whole pattern. -/
structure Scope where
  mode : Mode := {}
  /-- The alternatives in front of the one that is being read. -/
  alternatives : Row := {}
  /-- The parts in front of the last one. -/
  parts : Row := {}
  /-- The height of the last part, if it may be repeated. -/
  last : Option Nat := none
  deriving Repr, DecidableEq

namespace Scope

/-- All parts of the alternative that is being read. -/
def allParts (s : Scope) : Row := s.last.elim s.parts s.parts.add

/-- One part more, which may be repeated. -/
def add (s : Scope) (height : Nat) : Scope := { s with parts := s.allParts, last := some height }

/-- Flags, which cannot be repeated. -/
def setMode (s : Scope) (mode : Mode) : Scope :=
  { s with mode, parts := s.allParts.add 0, last := none }

/-- The alternatives with the one that is being read. -/
def allAlternatives (s : Scope) : Row := s.alternatives.add s.allParts.height

/-- The next alternative. -/
def startNext (s : Scope) : Scope := { mode := s.mode, alternatives := s.allAlternatives }

/-- The height of the pattern that a scope stands for. -/
def height (s : Scope) : Nat := s.allAlternatives.height

end Scope

/-- Whether a character asks for a repetition of what stands in front of it. -/
def isRepetition (c : Char) : Bool := c ∈ ['*', '+', '?']

/-- The height of a pattern, read from some place on, given the names of the groups so far, the groups
around the open one, and a bound of the number of characters. A question mark behind a repetition belongs
to it. -/
def heightFrom? :
    (fuel : Nat) → (names : List (List Char)) → (outer : List Scope) → Scope → List Char → Option Nat
  | 0, _, _, _, _ => none
  | fuel + 1, names, outer, s, cs =>
    match s.mode.skip cs with
    | [] => if outer.isEmpty then some s.height else none
    | c :: rest =>
      if c = '(' then
        match opening? s.mode rest with
        | none => none
        | some (.flags mode, rest) => heightFrom? fuel names outer (s.setMode mode) rest
        | some (.group mode name, rest) =>
          if name.any (· ∈ names) then none
          else heightFrom? fuel (name.toList ++ names) (s :: outer) { mode } rest
      else if c = ')' then
        match outer with
        | [] => none
        | o :: outer => heightFrom? fuel names outer (o.add (s.height + 1)) rest
      else if c = '|' then heightFrom? fuel names outer s.startNext rest
      else if c = '[' then
        (set? s.mode fuel rest).bind fun r => heightFrom? fuel names outer (s.add r.1) r.2
      else if c = '\\' then
        (escape? s.mode rest).bind fun r =>
          if r.1.isAllowed s.mode then heightFrom? fuel names outer (s.add 0) r.2 else none
      else if isRepetition c then
        s.last.bind fun height =>
          heightFrom? fuel names outer { s with last := some (height + 1) }
            (if rest.head? = some '?' then rest.drop 1 else rest)
      else if c = '\x7b' ∨ (c = '.' ∧ ¬ s.mode.isUnicode) then none
      else heightFrom? fuel names outer (s.add 0) rest

/-- Whether characters are a pattern. -/
def isWellFormed (cs : List Char) : Bool :=
  (heightFrom? (cs.length + 1) [] [] {} cs).any (· ≤ maxHeight)

end EdgePlane.Text.Pattern
