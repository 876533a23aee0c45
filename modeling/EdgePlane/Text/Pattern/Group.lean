import EdgePlane.Text.Alphanumeric
import EdgePlane.Text.Pattern.Mode

/-!
# Groups

What an opening parenthesis starts: a group, which may have a name or flags of its own, or flags for the
rest of the group that it stands in.
-/

namespace EdgePlane.Text.Pattern

/-- What an opening parenthesis starts. -/
inductive Opening
  /-- Flags for the rest of the group. -/
  | flags (mode : Mode)
  /-- A group. -/
  | group (mode : Mode) (name : Option (List Char))
  deriving Repr, DecidableEq

/-- Whether a text may name a group. -/
def isGroupName (name : List Char) : Bool :=
  match name with
  | [] => false
  | c :: rest =>
    (isLetter c || c = '_') && rest.all fun c => isAlphanumeric c || c ∈ ['_', '.', '[', ']']

/-- Reads the name of a group up to its end. -/
def groupName? (cs : List Char) : Option (List Char × List Char) :=
  let name := cs.takeWhile (· ≠ '>')
  if name.length < cs.length && isGroupName name then some (name, cs.drop (name.length + 1)) else none

/-- Reads what stands behind an opening parenthesis. -/
def opening? (m : Mode) (cs : List Char) : Option (Opening × List Char) :=
  match m.skip cs with
  | '?' :: 'P' :: '<' :: rest => (groupName? rest).map fun r => (.group m (some r.1), r.2)
  | '?' :: '<' :: rest => (groupName? rest).map fun r => (.group m (some r.1), r.2)
  | '?' :: rest =>
    let flags := rest.takeWhile fun c => c ≠ ':' && c ≠ ')'
    match rest.drop flags.length with
    | ':' :: rest => (m.change? flags).map (.group · none, rest)
    | ')' :: rest => if flags.isEmpty then none else (m.change? flags).map (.flags ·, rest)
    | _ => none
  | rest => some (.group m none, rest)

end EdgePlane.Text.Pattern
