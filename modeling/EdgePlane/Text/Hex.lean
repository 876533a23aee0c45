/-!
# Hexadecimal digits

Writing numbers in lower-case hexadecimal and reading single digits of either case.
-/

namespace EdgePlane.Text

/-- The digit for a value below sixteen. -/
def hexDigit (d : Nat) : Char :=
  if d < 10 then Char.ofNat ('0'.toNat + d) else Char.ofNat ('a'.toNat + (d - 10))

/-- The lower-case hexadecimal digits of a number in front of `rest`. -/
def hexBefore (n : Nat) (rest : List Char) : List Char :=
  if n < 16 then hexDigit n :: rest else hexBefore (n / 16) (hexDigit (n % 16) :: rest)

/-- The value of a digit, in lower or upper case. -/
def hexValue? (c : Char) : Option Nat :=
  if '0' ≤ c ∧ c ≤ '9' then some (c.toNat - '0'.toNat)
  else if 'a' ≤ c ∧ c ≤ 'f' then some (c.toNat - 'a'.toNat + 10)
  else if 'A' ≤ c ∧ c ≤ 'F' then some (c.toNat - 'A'.toNat + 10)
  else none

end EdgePlane.Text
