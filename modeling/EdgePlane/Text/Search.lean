/-!
# Searching and splitting a text

Whether one text occurs in another, letter case aside or not, and the pieces between the occurrences of a
character. Letter case is only ever set aside in
searches for a text of ASCII letters, so the lower case given here is exact for every character
whose lower case contains an ASCII letter and leaves all others as they are.
-/

namespace EdgePlane.Text

/-- Whether `part` occurs in a list of characters, at any place. -/
def occursIn (part : List Char) : List Char → Bool
  | [] => part.isEmpty
  | c :: rest => part.isPrefixOf (c :: rest) || occursIn part rest

/-- The characters in front of the first occurrence of `part` and those behind it. -/
def splitAround? (part : List Char) : List Char → Option (List Char × List Char)
  | [] => if part.isEmpty then some ([], []) else none
  | c :: rest =>
    if part.isPrefixOf (c :: rest) then some ([], (c :: rest).drop part.length)
    else (splitAround? part rest).map fun r => (c :: r.1, r.2)

/-- Whether `part` occurs in `s`. -/
def contains (s part : String) : Bool := occursIn part.toList s.toList

/-- The lower case of a character. Besides the ASCII capitals two characters have an ASCII letter
in their lower case: the dotted capital I (as `i` with a combining dot) and the Kelvin sign. -/
def lowerChar (c : Char) : List Char :=
  if c = '\u0130' then ['i', '\u0307']
  else if c = '\u212a' then ['k']
  else [c.toLower]

/-- The text in lower case. -/
def lower (s : String) : String := String.ofList (s.toList.flatMap lowerChar)

/-- Whether two texts are equal when the case of ASCII letters is set aside. -/
def equalIgnoringCase (s t : String) : Bool :=
  s.toList.map Char.toLower == t.toList.map Char.toLower

/-- The text without the given character at its end. -/
def trimEnd (c : Char) (s : String) : String :=
  String.ofList (s.toList.reverse.dropWhile (· == c)).reverse

/-- The pieces of a text between the occurrences of a character. -/
def pieces (separator : Char) : List Char → List (List Char)
  | [] => [[]]
  | c :: rest =>
    if c = separator then [] :: pieces separator rest
    else
      match pieces separator rest with
      | [] => [[c]]
      | first :: others => (c :: first) :: others

/-- The text of pieces with a character between them. -/
def joined (separator : Char) : List (List Char) → List Char
  | [] => []
  | [piece] => piece
  | piece :: rest => piece ++ separator :: joined separator rest

theorem pieces_ne_nil (separator : Char) (cs : List Char) : pieces separator cs ≠ [] := by
  cases cs with
  | nil => simp [pieces]
  | cons c rest =>
    simp only [pieces]
    split
    · simp
    · split <;> simp

theorem joined_cons {separator : Char} {pieces : List (List Char)} (h : pieces ≠ [])
    (piece : List Char) :
    joined separator (piece :: pieces) = piece ++ separator :: joined separator pieces := by
  cases pieces with
  | nil => exact absurd rfl h
  | cons => rfl

/-- Splitting loses nothing. -/
theorem joined_pieces (separator : Char) (cs : List Char) :
    joined separator (pieces separator cs) = cs := by
  induction cs with
  | nil => rfl
  | cons c rest ih =>
    simp only [pieces]
    split
    · next h => rw [joined_cons (pieces_ne_nil separator rest), ih, h]; rfl
    · cases hp : pieces separator rest with
      | nil => exact absurd hp (pieces_ne_nil separator rest)
      | cons first others =>
        rw [hp] at ih
        cases others with
        | nil => simpa [joined] using ih
        | cons second others => simpa [joined] using ih

theorem occursIn_iff {part s : List Char} : occursIn part s ↔ part <:+: s := by
  induction s with
  | nil => simp [occursIn]
  | cons c rest ih =>
    rw [occursIn, Bool.or_eq_true, List.isPrefixOf_iff_prefix, ih, List.infix_cons_iff]

theorem occursIn_of_append (before part after : List Char) :
    occursIn part (before ++ (part ++ after)) = true :=
  occursIn_iff.2 ⟨before, after, List.append_assoc ..⟩

theorem toList_lower_append (s t : String) :
    (lower (s ++ t)).toList = (lower s).toList ++ (lower t).toList := by
  simp [lower]

/-- Lower case makes no blanks. -/
theorem eq_blank_of_mem_lowerChar {c : Char} (h : ' ' ∈ lowerChar c) : c = ' ' := by
  unfold lowerChar at h
  split at h
  · simp at h
  split at h
  · simp at h
  have same : ' ' = c.toLower := List.mem_singleton.1 h
  unfold Char.toLower at same
  split at same
  · rename_i upper
    have zero : c.val = 0 := by simpa using congrArg Char.val same
    rw [zero] at upper
    exact absurd upper.1 (by decide)
  · exact same.symm

theorem blank_mem_of_mem_lower {s : String} (h : ' ' ∈ (lower s).toList) : ' ' ∈ s.toList := by
  rw [lower, String.toList_ofList] at h
  obtain ⟨c, hc, here⟩ := List.mem_flatMap.1 h
  exact eq_blank_of_mem_lowerChar here ▸ hc

end EdgePlane.Text
