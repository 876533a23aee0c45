import EdgePlane.Text.Decimal
import EdgePlane.Text.Hex
import EdgePlane.Text.Search

/-!
# Internet addresses

The textual forms of addresses of both versions. A version 4 address is four decimal numbers below
256 without leading zeros. A version 6 address is eight groups of up to four hexadecimal digits; one
run of zero groups may be left out, and the last two groups may have the form of a version 4 address.
-/

namespace EdgePlane.Net

open Text

/-- An address of one of the two versions. -/
inductive IpAddress
  | v4 (a b c d : Nat)
  | v6 (groups : List Nat)
  deriving Repr, DecidableEq

namespace IpAddress

/-- A decimal number below 256 without a leading zero. -/
def octet? (cs : List Char) : Option Nat :=
  if cs = [] ∨ 3 < cs.length ∨ (1 < cs.length ∧ cs.head? = some '0') then none
  else do
    let n ← cs.foldlM (fun acc c => (digitValue? c).map (acc * 10 + ·)) 0
    if n < 256 then some n else none

/-- The four numbers of a dotted text. -/
def octets? (cs : List Char) : Option (Nat × Nat × Nat × Nat) :=
  match pieces '.' cs with
  | [a, b, c, d] => do return (← octet? a, ← octet? b, ← octet? c, ← octet? d)
  | _ => none

/-- A group of one to four hexadecimal digits. -/
def group? (cs : List Char) : Option Nat :=
  if cs = [] ∨ 4 < cs.length then none
  else cs.foldlM (fun acc c => (hexValue? c).map (acc * 16 + ·)) 0

/-- The groups of a list of pieces, of which the last may stand for two groups. -/
def groupsOf? : List (List Char) → Option (List Nat)
  | [] => some []
  | [last] =>
    match octets? last with
    | some (a, b, c, d) => some [a * 256 + b, c * 256 + d]
    | none => (group? last).map ([·])
  | first :: rest => do return (← group? first) :: (← groupsOf? rest)

/-- The groups of a text without gap. -/
def groups? (cs : List Char) : Option (List Nat) :=
  if cs = [] then some [] else groupsOf? (pieces ':' cs)

/-- The groups in front of the gap, of which the last may not stand for two. -/
def plainGroups? (cs : List Char) : Option (List Nat) :=
  if cs = [] then some [] else (pieces ':' cs).mapM group?

/-- The parts in front of and behind the first pair of colons. -/
def splitGap? : List Char → Option (List Char × List Char)
  | ':' :: ':' :: rest => some ([], rest)
  | c :: rest => (splitGap? rest).map fun r => (c :: r.1, r.2)
  | [] => none

/-- The eight groups of a version 6 address. A gap stands for at least one group. -/
def sixGroups? (cs : List Char) : Option (List Nat) :=
  match splitGap? cs with
  | none => do
    let groups ← groups? cs
    if groups.length = 8 then some groups else none
  | some (front, back) => do
    let front ← plainGroups? front
    let back ← groups? back
    if front.length + back.length < 8 then
      some (front ++ List.replicate (8 - front.length - back.length) 0 ++ back)
    else none

/-- The address that a text stands for. -/
def parse? (s : String) : Option IpAddress :=
  match octets? s.toList with
  | some (a, b, c, d) => some (.v4 a b c d)
  | none => (sixGroups? s.toList).map .v6

/-- The dotted form of four numbers. -/
def dotted (a b c d : Nat) : String :=
  decimal a ++ "." ++ decimal b ++ "." ++ decimal c ++ "." ++ decimal d

/-- Groups in hexadecimal with colons between them. -/
def colons (groups : List Nat) : String :=
  ":".intercalate (groups.map fun g => String.ofList (hexBefore g []))

/-- The length of the run of zeros at the front. -/
def zerosAtFront (groups : List Nat) : Nat := (groups.takeWhile (· = 0)).length

/-- The place and length of the first of the longest runs of zeros. -/
def longestZeros (groups : List Nat) : Nat × Nat :=
  ((List.range groups.length).map fun i => (i, zerosAtFront (groups.drop i))).foldl
    (fun best run => if best.2 < run.2 then run else best) (0, 0)

/-- The canonical form: the first longest run of two or more zero groups is left out, and a mapped
version 4 address keeps its dotted form. -/
def render : IpAddress → String
  | .v4 a b c d => dotted a b c d
  | .v6 [0, 0, 0, 0, 0, 0xFFFF, p, q] =>
    "::ffff:" ++ dotted (p / 256) (p % 256) (q / 256) (q % 256)
  | .v6 groups =>
    let (start, length) := longestZeros groups
    if length < 2 then colons groups
    else colons (groups.take start) ++ "::" ++ colons (groups.drop (start + length))

end IpAddress

end EdgePlane.Net
