/-!
# Base64

The standard alphabet with padding. Each group of three bytes becomes four characters; one or two
bytes that are left over become two or three characters and padding. Decoding accepts exactly the
canonical form: groups of four characters, padding only in the last group, and no bits set that the
padded group does not use.
-/

namespace EdgePlane.Text.Base64

/-- The character for a value of six bits. -/
def charOf (n : Nat) : Char :=
  if n < 26 then Char.ofNat ('A'.toNat + n)
  else if n < 52 then Char.ofNat ('a'.toNat + (n - 26))
  else if n < 62 then Char.ofNat ('0'.toNat + (n - 52))
  else if n = 62 then '+'
  else '/'

/-- The value of a character of the alphabet. -/
def valueOf? (c : Char) : Option Nat :=
  if 'A' ≤ c ∧ c ≤ 'Z' then some (c.toNat - 'A'.toNat)
  else if 'a' ≤ c ∧ c ≤ 'z' then some (c.toNat - 'a'.toNat + 26)
  else if '0' ≤ c ∧ c ≤ '9' then some (c.toNat - '0'.toNat + 52)
  else if c = '+' then some 62
  else if c = '/' then some 63
  else none

/-- The groups of four characters for bytes. -/
def encode : List UInt8 → List Char
  | [] => []
  | [a] => [charOf (a.toNat / 4), charOf (a.toNat % 4 * 16), '=', '=']
  | [a, b] =>
    [charOf (a.toNat / 4), charOf (a.toNat % 4 * 16 + b.toNat / 16), charOf (b.toNat % 16 * 4), '=']
  | a :: b :: c :: rest =>
    charOf (a.toNat / 4) :: charOf (a.toNat % 4 * 16 + b.toNat / 16) ::
      charOf (b.toNat % 16 * 4 + c.toNat / 64) :: charOf (c.toNat % 64) :: encode rest

/-- The byte of a padded group of two values, of which the last four bits must be clear. -/
def oneByte? (p q : Nat) : Option (List UInt8) :=
  if q % 16 = 0 then some [UInt8.ofNat (p * 4 + q / 16)] else none

/-- The bytes of a padded group of three values, of which the last two bits must be clear. -/
def twoBytes? (p q r : Nat) : Option (List UInt8) :=
  if r % 4 = 0 then some [UInt8.ofNat (p * 4 + q / 16), UInt8.ofNat (q % 16 * 16 + r / 4)] else none

/-- The bytes of a full group. -/
def threeBytes (p q r s : Nat) : List UInt8 :=
  [UInt8.ofNat (p * 4 + q / 16), UInt8.ofNat (q % 16 * 16 + r / 4), UInt8.ofNat (r % 4 * 64 + s)]

/-- The bytes that a text encodes, if it is a canonical encoding. -/
def decode? : List Char → Option (List UInt8)
  | [] => some []
  | [a, b, '=', '='] => do oneByte? (← valueOf? a) (← valueOf? b)
  | [a, b, c, '='] => do twoBytes? (← valueOf? a) (← valueOf? b) (← valueOf? c)
  | a :: b :: c :: d :: rest => do
    let group := threeBytes (← valueOf? a) (← valueOf? b) (← valueOf? c) (← valueOf? d)
    return group ++ (← decode? rest)
  | _ => none

/-- The encoded form of a text's UTF-8 bytes. -/
def encodeText (s : String) : String := String.ofList (encode s.toUTF8.data.toList)

/-- The text that a byte list is the UTF-8 form of. -/
def textOfBytes? (bytes : List UInt8) : Option String := String.fromUTF8? ⟨bytes.toArray⟩

/-- The text whose encoded form is given, if there is one. -/
def decodeText? (s : String) : Option String := (decode? s.toList).bind textOfBytes?

example : encode [0x66, 0x6F, 0x6F, 0x62] = ['Z', 'm', '9', 'v', 'Y', 'g', '=', '='] := by decide
example : decode? ['Z', 'h', '=', '='] = none := by decide

end EdgePlane.Text.Base64
