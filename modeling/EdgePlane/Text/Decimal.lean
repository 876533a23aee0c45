/-!
# Decimal numerals

Reading and writing of whole numbers in decimal. A numeral that is read may start with one plus sign,
has at least one digit, and stands for at most a given bound. The two ways in which a numeral can be
wrong are told apart at the first character where one of them shows.
-/

namespace EdgePlane.Text

/-- What is wrong with a numeral. -/
inductive NumeralError
  | notDigit
  | tooLarge
  deriving Repr, DecidableEq

/-- The error as it is printed. -/
def NumeralError.message : NumeralError → String
  | .notDigit => "invalid digit found in string"
  | .tooLarge => "number too large to fit in target type"

/-- The value of a digit. -/
def digitValue? (c : Char) : Option Nat :=
  if '0' ≤ c ∧ c ≤ '9' then some (c.toNat - '0'.toNat) else none

/-- Reads digits after a part with value `acc`, up to `bound`. -/
def readDigits (bound acc : Nat) : List Char → Except NumeralError Nat
  | [] => .ok acc
  | c :: rest =>
    match digitValue? c with
    | none => .error .notDigit
    | some d => if bound < acc * 10 + d then .error .tooLarge else readDigits bound (acc * 10 + d) rest

/-- Reads a numeral of value at most `bound`. -/
def readNumeral (bound : Nat) : List Char → Except NumeralError Nat
  | [] => .error .notDigit
  | ['+'] => .error .notDigit
  | '+' :: c :: rest => readDigits bound 0 (c :: rest)
  | c :: rest => readDigits bound 0 (c :: rest)

/-- The digit of a value below ten. -/
def digitChar (d : Nat) : Char := Char.ofNat ('0'.toNat + d)

/-- The digits of a number, most significant first, in front of `rest`. -/
def digitsBefore (n : Nat) (rest : List Char) : List Char :=
  if n < 10 then digitChar n :: rest else digitsBefore (n / 10) (digitChar (n % 10) :: rest)

/-- The numeral of a number, without superfluous zeros. -/
def decimal (n : Nat) : String := String.ofList (digitsBefore n [])

/-- The numeral of a whole number, with a minus sign if it is negative. -/
def decimalInt : Int → String
  | .ofNat n => decimal n
  | .negSucc n => "-" ++ decimal (n + 1)

/-- The numeral of a number with zeros in front up to a given width. -/
def decimalPadded (width n : Nat) : String :=
  let digits := digitsBefore n []
  String.ofList (List.replicate (width - digits.length) '0' ++ digits)

theorem digitValue?_digitChar {d : Nat} (h : d < 10) : digitValue? (digitChar d) = some d := by
  have : d = 0 ∨ d = 1 ∨ d = 2 ∨ d = 3 ∨ d = 4 ∨ d = 5 ∨ d = 6 ∨ d = 7 ∨ d = 8 ∨ d = 9 := by omega
  rcases this with h | h | h | h | h | h | h | h | h | h <;> subst h <;> decide

end EdgePlane.Text
