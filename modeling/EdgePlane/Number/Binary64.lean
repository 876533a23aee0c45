import EdgePlane.Text.Decimal

/-!
# Binary floating-point numbers

The finite numbers of the 64-bit format, as a sign, a significand below 2⁵³ and a power of two.
Rounding goes to the nearest of them, of two equally near ones to the one with an even significand.
The text of a number has the fewest decimal digits that read back as it.
-/

namespace EdgePlane.Number

open Text

/-- The number `± significand * 2 ^ exponent`. -/
structure Binary64 where
  negative : Bool
  significand : Nat
  exponent : Int
  deriving Repr, DecidableEq, Inhabited

namespace Binary64

/-- The bound of significands, 2⁵³. -/
def bound : Nat := 9007199254740992

/-- The power of two of the smallest numbers. -/
def leastExponent : Int := -1074

/-- The power of two of the largest numbers. -/
def greatestExponent : Int := 971

/-- The quotient rounded to the nearest whole number, a half to the even one. -/
def roundedQuotient (num den : Nat) : Nat :=
  let q := num / den
  let r := num % den
  if 2 * r < den ∨ (2 * r = den ∧ q % 2 = 0) then q else q + 1

/-- A fraction times a power of two, as numerator and denominator. -/
def scaled (num den : Nat) (power : Int) : Nat × Nat :=
  if 0 ≤ power then (num * Nat.pow 2 power.toNat, den) else (num, den * Nat.pow 2 power.natAbs)

/-- The power of two at which a fraction has a significand of 53 bits, or the least power. -/
def exponentFor (num den : Nat) : Int :=
  let guess := (Nat.log2 num : Int) - Nat.log2 den - 53
  let (n, d) := scaled num den (-guess)
  max leastExponent (if d * bound ≤ n then guess + 1 else guess)

/-- The number nearest to a fraction, if it is in range. -/
def nearest? (negative : Bool) (num den : Nat) : Option Binary64 :=
  if num = 0 then some ⟨negative, 0, leastExponent⟩
  else
    let e := exponentFor num den
    let (n, d) := scaled num den (-e)
    let m := roundedQuotient n d
    let (m, e) := if m = bound then (bound / 2, e + 1) else (m, e)
    if greatestExponent < e then none else some ⟨negative, m, e⟩

/-- The magnitude as a fraction. -/
def magnitude (x : Binary64) : Nat × Nat := scaled x.significand 1 x.exponent

/-- The nearest number to an integer. -/
def ofInt? (n : Int) : Option Binary64 := nearest? (n < 0) n.natAbs 1

/-- The nearest number to a power of ten. -/
def powerOfTen? (k : Nat) : Option Binary64 := nearest? false (Nat.pow 10 k) 1

/-- The rounded product of the magnitudes. -/
def times? (x y : Binary64) : Option Binary64 :=
  nearest? x.negative (x.magnitude.1 * y.magnitude.1) (x.magnitude.2 * y.magnitude.2)

/-- The rounded quotient of the magnitudes, of which the second is not zero. -/
def over? (x y : Binary64) : Option Binary64 :=
  nearest? x.negative (x.magnitude.1 * y.magnitude.2) (x.magnitude.2 * y.magnitude.1)

/-- The largest power of ten in range. -/
def largestPower : Nat := 308

/-- `x` times a power of ten, rounded after each step. A negative power is taken in steps of at most
`largestPower`; `fuel` bounds their number. -/
def timesPowerOfTen? (fuel : Nat) (x : Binary64) (power : Int) : Option Binary64 :=
  match fuel with
  | 0 => none
  | fuel + 1 =>
    if power.natAbs ≤ largestPower then do
      let p ← powerOfTen? power.natAbs
      if 0 ≤ power then times? x p else over? x p
    else if x.significand = 0 then some x
    else if 0 ≤ power then none
    else do
      let p ← powerOfTen? largestPower
      timesPowerOfTen? fuel (← over? x p) (power + largestPower)

/-- The number written as a significand and a power of ten. -/
def ofDecimal? (negative : Bool) (significand : Nat) (power : Int) : Option Binary64 := do
  let x ← nearest? false significand 1
  let y ← timesPowerOfTen? (power.natAbs / largestPower + 2) x power
  return { y with negative }

/-- Whether a decimal `digits * 10 ^ power` rounds to the magnitude of `x`. -/
def readsBack (x : Binary64) (digits : Nat) (power : Int) : Bool :=
  let (num, den) := if 0 ≤ power then (digits * Nat.pow 10 power.toNat, 1)
    else (digits, Nat.pow 10 power.natAbs)
  match nearest? false num den with
  | some y => y.significand = x.significand && y.exponent = x.exponent
  | none => false

/-- The largest whole number `k` with `10 ^ k` at most the fraction, searched downwards. -/
def decimalExponent (num den : Nat) : Nat → Int → Int
  | 0, k => k
  | fuel + 1, k =>
    let below := if 0 ≤ k then den * Nat.pow 10 k.toNat ≤ num else den ≤ num * Nat.pow 10 k.natAbs
    if below then k else decimalExponent num den fuel (k - 1)

/-- The neighbours of the fraction on the grid of multiples of `10 ^ power`, the lower one with the
distances to both in a common unit. -/
def neighbours (num den : Nat) (power : Int) : Nat × Nat × Nat :=
  let (n, d) := if 0 ≤ power then (num, den * Nat.pow 10 power.toNat)
    else (num * Nat.pow 10 power.natAbs, den)
  (n / d, n % d, d - n % d)

/-- The decimal with the fewest digits that reads back, tried from `count` digits on. -/
def shortestFrom (x : Binary64) (top : Int) : Nat → Nat → Nat × Int
  | 0, _ => (0, 0)
  | fuel + 1, count =>
    let power := top + 1 - count
    let (low, below, above) := neighbours x.magnitude.1 x.magnitude.2 power
    let lowFits := readsBack x low power
    let highFits := readsBack x (low + 1) power
    if lowFits && (!highFits || below < above || (below = above && low % 2 = 0)) then (low, power)
    else if highFits then (low + 1, power)
    else shortestFrom x top fuel (count + 1)

/-- The shortest decimal that reads back as the magnitude of `x`. Only a digit rounded up to ten ends
in a zero. -/
def shortest (x : Binary64) : Nat × Int :=
  let (num, den) := x.magnitude
  let (n, power) := shortestFrom x (decimalExponent num den 640 309) 18 1
  if n % 10 = 0 then (n / 10, power + 1) else (n, power)

/-- The number as text: positional from 10⁻⁵ to below 10¹⁶ with at least one place, and with an
exponent, which always has a sign, outside that range. -/
def render (x : Binary64) : String :=
  let sign := if x.negative then "-" else ""
  if x.significand = 0 then sign ++ "0.0"
  else
    let (n, power) := shortest x
    let digits := digitsBefore n []
    let length : Int := digits.length
    let point := length + power
    sign ++
      if 0 ≤ power ∧ point ≤ 16 then
        String.ofList (digits ++ List.replicate power.toNat '0') ++ ".0"
      else if 0 < point ∧ point ≤ 16 then
        String.ofList (digits.take point.toNat ++ '.' :: digits.drop point.toNat)
      else if -5 < point ∧ point ≤ 0 then
        String.ofList ('0' :: '.' :: List.replicate point.natAbs '0' ++ digits)
      else
        String.ofList (digits.take 1) ++
          (if digits.length = 1 then "" else "." ++ String.ofList (digits.drop 1)) ++
          (if 1 ≤ point then "e+" else "e") ++ decimalInt (point - 1)

end Binary64

end EdgePlane.Number
