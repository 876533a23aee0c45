import EdgePlane.Json.Basic

/-!
# JSON numerals

The grammar of numbers and their values. The significand is collected in 64 bits: of the digits in
front of the point those that no longer fit count as zeros, of the digits behind it they are dropped.
The significand is then multiplied or divided once by a power of ten.
-/

namespace EdgePlane.Json

open EdgePlane.Number (Binary64)
open Text

/-- A significand stays below this bound. -/
def significandBound : Nat := UInt64.size

/-- The values of the digits at the front, and what follows them. -/
def digitRun : List Char → List Nat × List Char
  | [] => ([], [])
  | c :: rest =>
    match digitValue? c with
    | some d => let (ds, rest) := digitRun rest; (d :: ds, rest)
    | none => ([], c :: rest)

/-- Adds digits to a significand while it stays within its bound; what is left does not fit. -/
def collect (significand : Nat) : List Nat → Nat × List Nat
  | [] => (significand, [])
  | d :: rest =>
    if significand * 10 + d < significandBound then collect (significand * 10 + d) rest
    else (significand, d :: rest)

/-- The digits in front of the point: at least one, and no zero in front of others. -/
def wholePart? (cs : List Char) : Option (List Nat × List Char) :=
  match digitRun cs with
  | ([], _) => none
  | (0 :: _ :: _, _) => none
  | r => some r

/-- The digits behind the point, of which there is at least one if there is a point. -/
def places? : List Char → Option (List Nat × List Char)
  | '.' :: rest =>
    match digitRun rest with
    | ([], _) => none
    | r => some r
  | rest => some ([], rest)

/-- The exponent, with at least one digit if there is one at all. -/
def power? : List Char → Option (Option Int × List Char)
  | c :: rest =>
    if c = 'e' ∨ c = 'E' then
      let (negative, rest) := match rest with
        | '+' :: rest => (false, rest)
        | '-' :: rest => (true, rest)
        | rest => (false, rest)
      match digitRun rest with
      | ([], _) => none
      | (ds, rest) =>
        let n : Nat := ds.foldl (fun acc d => acc * 10 + d) 0
        some (some (if negative then -(n : Int) else n), rest)
    else some (none, c :: rest)
  | [] => some (none, [])

/-- A whole numeral. A negative zero and numbers beyond 64 bits are floating-point numbers. -/
def wholeNumber (negative : Bool) (significand : Nat) : Option Number :=
  if negative then
    if significand = 0 ∨ UInt64.size / 2 < significand then
      (Binary64.nearest? true significand 1).map .real
    else some (.whole (-significand))
  else some (.whole significand)

/-- Reads a numeral. One that is too large for a floating-point number has no value. -/
def numeral? (cs : List Char) : Option (Option Number) := do
  let (negative, cs) := match cs with
    | '-' :: rest => (true, rest)
    | rest => (false, rest)
  let (whole, cs) ← wholePart? cs
  let (places, cs) ← places? cs
  let (power, cs) ← power? cs
  if cs ≠ [] then none
  else
    let (significand, lost) := collect 0 whole
    if lost = [] ∧ places = [] ∧ power = none then some (wholeNumber negative significand)
    else
      let (significand, dropped) := collect significand places
      let shift : Int := lost.length - (places.length - dropped.length : Nat)
      some ((Binary64.ofDecimal? negative significand (shift + power.getD 0)).map .real)

end EdgePlane.Json
