import EdgePlane.Text.Pattern.Escape
import EdgePlane.Text.Pattern.Row

/-!
# Sets of characters

A set stands in brackets. It has characters, ranges, named sets and other sets as its members, and
operations between groups of members.
-/

namespace EdgePlane.Text.Pattern

/-- The names of sets of ASCII characters. -/
def asciiSets : List String :=
  ["alnum", "alpha", "ascii", "blank", "cntrl", "digit", "graph", "lower", "print", "punct", "space",
    "upper", "word", "xdigit"]

/-- Reads a named set, given what stands behind its opening bracket: whether it is negated, and what
follows it. -/
def namedSet? : List Char → Option (Bool × List Char)
  | ':' :: rest =>
    let isNegated := rest.head? = some '^'
    let rest := if isNegated then rest.drop 1 else rest
    let name := rest.takeWhile (· ≠ ':')
    match rest.dropWhile (· ≠ ':') with
    | ':' :: ']' :: rest =>
      if String.ofList name ∈ asciiSets then some (isNegated, rest) else none
    | _ => none
  | _ => none

/-- A set that is open. -/
structure OpenSet where
  /-- The height of what stands in front of the last operation. -/
  left : Option Nat := none
  /-- The members since then. -/
  members : Row := {}
  /-- Whether nothing but hyphens was read, which stand for themselves here. -/
  isFresh : Bool := true
  deriving Repr, DecidableEq

namespace OpenSet

/-- One member more. -/
def add (s : OpenSet) (height : Nat) : OpenSet :=
  { s with members := s.members.add height, isFresh := false }

/-- How deep sets and operations are inside each other. -/
def height (s : OpenSet) : Nat :=
  match s.left with
  | none => s.members.height
  | some left => max left s.members.height + 1

/-- An operation, whose left side is all that was read. -/
def operate (s : OpenSet) : OpenSet := ⟨some s.height, {}, false⟩

end OpenSet

/-- Reads one character or escape of a set. -/
def member? (m : Mode) : List Char → Option (Escape × List Char)
  | [] => none
  | '\\' :: rest => escape? m rest
  | c :: rest => some (.character c false, rest)

/-- What follows one member or one range of a set. -/
def afterRange? (m : Mode) (cs : List Char) : Option (List Char) := do
  let (first, rest) ← member? m cs
  if !first.isMember m then none
  else
    let rest := m.skip rest
    match rest with
    | '-' :: others =>
      if m.peek? others ∈ [some ']', some '-'] then some rest
      else
        let (last, rest) ← member? m (m.skip others)
        if last.isMember m && (← first.character?) ≤ (← last.character?) then some rest else none
    | _ => some rest

/-- Passes over a circumflex at the start of a set. A set of bytes cannot be negated, because it would
have bytes that are no characters. -/
def openSet? (m : Mode) (cs : List Char) : Option (List Char) :=
  match m.skip cs with
  | '^' :: rest => if m.isUnicode then some rest else none
  | rest => some rest

/-- Reads a set that is open, given the sets around it and a bound of the number of members: its height
and what follows it. -/
def setFrom? (m : Mode) : (fuel : Nat) → List OpenSet → OpenSet → List Char → Option (Nat × List Char)
  | 0, _, _, _ => none
  | fuel + 1, outer, s, cs =>
    match m.skip cs with
    | [] => none
    | c :: rest =>
      if c = '-' ∧ s.isFresh then
        setFrom? m fuel outer { s with members := s.members.add 0 } rest
      else if c = ']' ∧ ¬ (s.isFresh ∧ s.members.count = 0) then
        match outer with
        | [] => some (s.height + 1, rest)
        | o :: outer => setFrom? m fuel outer (o.add (s.height + 1)) rest
      else if c = '[' then
        match namedSet? rest with
        | some (isNegated, rest) =>
          if isNegated && !m.isUnicode then none else setFrom? m fuel outer (s.add 0) rest
        | none => (openSet? m rest).bind (setFrom? m fuel (s :: outer) {})
      else if c ∈ ['&', '-', '~'] ∧ rest.head? = some c then
        setFrom? m fuel outer s.operate (rest.drop 1)
      else (afterRange? m (c :: rest)).bind (setFrom? m fuel outer (s.add 0))

/-- Reads a set, given what stands behind its opening bracket and a bound of the number of members: its
height and what follows it. -/
def set? (m : Mode) (fuel : Nat) (cs : List Char) : Option (Nat × List Char) :=
  (openSet? m cs).bind (setFrom? m fuel [] {})

end EdgePlane.Text.Pattern
