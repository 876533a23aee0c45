/-!
# Elements inside each other

Certificates and keys are written as elements in DER: a tag, the length of the content, and the content,
which is again a row of elements or a value. Lengths below 128 take one byte. Longer ones follow a byte
that tells how many bytes they take, most significant first.
-/

namespace EdgePlane.Der

/-- A tag and the content under it. -/
structure Element where
  tag : UInt8
  content : List UInt8
  deriving Repr, DecidableEq

/-- The number that bytes stand for, most significant first. -/
def number (bytes : List UInt8) : Nat := bytes.foldl (fun n b => n * 256 + b.toNat) 0

/-- The length at the front, of at most four bytes, and the bytes behind it. -/
def length? : List UInt8 → Option (Nat × List UInt8)
  | [] => none
  | first :: rest =>
    if first.toNat < 128 then some (first.toNat, rest)
    else
      let count := first.toNat - 128
      if count = 0 ∨ 4 < count ∨ rest.length < count then none
      else some (number (rest.take count), rest.drop count)

/-- The first element and the bytes behind it. -/
def element? : List UInt8 → Option (Element × List UInt8)
  | [] => none
  | tag :: rest =>
    match length? rest with
    | none => none
    | some (length, rest) =>
      if rest.length < length then none else some (⟨tag, rest.take length⟩, rest.drop length)

theorem length_of_length? {bytes rest : List UInt8} {length : Nat}
    (h : length? bytes = some (length, rest)) : rest.length < bytes.length := by
  cases bytes with
  | nil => simp [length?] at h
  | cons first others =>
    simp only [length?] at h
    split at h
    · obtain ⟨-, rfl⟩ := Prod.mk.inj (Option.some.inj h)
      exact Nat.lt_succ_self _
    · split at h
      · simp at h
      · obtain ⟨-, rfl⟩ := Prod.mk.inj (Option.some.inj h)
        rw [List.length_drop, List.length_cons]
        omega

/-- Less is left behind an element. -/
theorem length_of_element? {bytes rest : List UInt8} {element : Element}
    (h : element? bytes = some (element, rest)) : rest.length < bytes.length := by
  cases bytes with
  | nil => simp [element?] at h
  | cons tag others =>
    simp only [element?] at h
    split at h
    · simp at h
    · rename_i length behind found
      have shorter := length_of_length? found
      split at h
      · simp at h
      · obtain ⟨-, rfl⟩ := Prod.mk.inj (Option.some.inj h)
        rw [List.length_drop, List.length_cons]
        omega

/-- The elements that bytes consist of. -/
def elements? (bytes : List UInt8) : Option (List Element) :=
  if bytes = [] then some []
  else
    match _h : element? bytes with
    | none => none
    | some (first, rest) => (elements? rest).map (first :: ·)
termination_by bytes.length
decreasing_by exact length_of_element? _h

/-- The tag of a whole number. -/
def integerTag : UInt8 := 0x02

/-- The tag of a row of elements. -/
def sequenceTag : UInt8 := 0x30

/-- The tag of a set of elements. -/
def setTag : UInt8 := 0x31

/-- The tag of a string of bits. -/
def bitStringTag : UInt8 := 0x03

/-- The tag of a string of bytes. -/
def octetStringTag : UInt8 := 0x04

/-- The elements in an element of a tag. -/
def Element.parts? (e : Element) (tag : UInt8) : Option (List Element) :=
  if e.tag = tag then elements? e.content else none

/-- The bytes of a string of bits, of which the last are not used. -/
def Element.bits? (e : Element) : Option (List UInt8) :=
  if e.tag = bitStringTag then e.content.tail? else none

end EdgePlane.Der
