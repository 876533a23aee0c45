import EdgePlane.Text.Decimal
import Mathlib.Data.Nat.Digits.Defs
import Mathlib.Logic.Function.Defs

/-!
# Numerals read back

What is read as a number is just what the grammar of numerals makes of it. A numeral that is written in
decimal consists of digits, is not empty, and is read as the number it was written for. So different numbers
have different numerals.
-/

namespace EdgePlane.Text

/-- Whether a character is a digit. -/
def isDigit (c : Char) : Bool := (digitValue? c).isSome

/-- The number that digits stand for, the most significant first. -/
def digitsValue (ds : List Char) : Nat := Nat.ofDigits 10 (ds.reverse.map fun c => c.toNat - '0'.toNat)

/-- The numerals of a number: its digits, of which there is at least one, behind at most one plus sign.
Zeros may stand in front of the other digits. -/
inductive IsNumeral : List Char → Nat → Prop
  | unsigned {ds : List Char} (some : ds ≠ []) (digits : ∀ c ∈ ds, isDigit c = true) :
    IsNumeral ds (digitsValue ds)
  | signed {ds : List Char} (some : ds ≠ []) (digits : ∀ c ∈ ds, isDigit c = true) :
    IsNumeral ('+' :: ds) (digitsValue ds)

theorem digitValue?_eq_some_iff {c : Char} {d : Nat} :
    digitValue? c = some d ↔ isDigit c = true ∧ d = c.toNat - '0'.toNat := by
  unfold isDigit digitValue?
  split
  · simp only [Option.some.injEq, Option.isSome_some, true_and]
    exact eq_comm
  · simp

theorem digitsValue_cons (c : Char) (ds : List Char) :
    digitsValue (c :: ds) = (c.toNat - '0'.toNat) * 10 ^ ds.length + digitsValue ds := by
  rw [digitsValue, List.reverse_cons, List.map_append, Nat.ofDigits_append, List.map_singleton,
    Nat.ofDigits_singleton, List.length_map, List.length_reverse, digitsValue]
  ring

/-- Reading digits behind a part within the bound succeeds just if all of them are digits and the whole
number is within the bound. -/
theorem readDigits_eq_ok_iff {bound acc n : Nat} {cs : List Char} (within : acc ≤ bound) :
    readDigits bound acc cs = .ok n ↔
      (∀ c ∈ cs, isDigit c = true) ∧ n = acc * 10 ^ cs.length + digitsValue cs ∧ n ≤ bound := by
  induction cs generalizing acc with
  | nil =>
    have whole : acc * 10 ^ ([] : List Char).length + digitsValue [] = acc := by
      simp [digitsValue]
    rw [readDigits, whole, Except.ok.injEq]
    constructor
    · rintro rfl
      exact ⟨by simp, rfl, within⟩
    · rintro ⟨-, rfl, -⟩
      rfl
  | cons c cs ih =>
    cases digit : digitValue? c with
    | none =>
      have foreign : isDigit c ≠ true := by simp [isDigit, digit]
      simp only [readDigits, digit, reduceCtorEq, List.forall_mem_cons, foreign, false_and]
    | some d =>
      obtain ⟨isDigit, value⟩ := digitValue?_eq_some_iff.1 digit
      have whole : acc * 10 ^ (c :: cs).length + digitsValue (c :: cs) =
          (acc * 10 + d) * 10 ^ cs.length + digitsValue cs := by
        rw [digitsValue_cons, ← value, List.length_cons]
        ring
      simp only [readDigits, digit, List.forall_mem_cons, isDigit, true_and, whole]
      by_cases beyond : bound < acc * 10 + d
      · -- The digits that follow make the number no smaller.
        have grown : acc * 10 + d ≤ (acc * 10 + d) * 10 ^ cs.length :=
          Nat.le_mul_of_pos_right _ (Nat.pow_pos (by decide))
        rw [if_pos beyond]
        refine iff_of_false nofun ?_
        rintro ⟨-, rfl, small⟩
        omega
      · rw [if_neg beyond]
        exact ih (by omega)

/-- A numeral is read just if the grammar has it and its number is within the bound. -/
theorem readNumeral_eq_ok_iff {bound n : Nat} {cs : List Char} :
    readNumeral bound cs = .ok n ↔ IsNumeral cs n ∧ n ≤ bound := by
  have digits {ds : List Char} : readDigits bound 0 ds = .ok n ↔
      (∀ c ∈ ds, isDigit c = true) ∧ n = digitsValue ds ∧ n ≤ bound := by
    rw [readDigits_eq_ok_iff (Nat.zero_le bound), Nat.zero_mul, Nat.zero_add]
  have plus : isDigit '+' ≠ true := by decide
  unfold readNumeral
  split
  · refine iff_of_false nofun ?_
    rintro ⟨⟨some, -⟩, -⟩
    exact some rfl
  · refine iff_of_false nofun ?_
    rintro ⟨⟨-, all⟩ | ⟨some, -⟩, -⟩
    · exact plus (all '+' (List.mem_singleton_self _))
    · exact some rfl
  · rename_i c rest
    rw [digits]
    constructor
    · rintro ⟨all, rfl, small⟩
      exact ⟨.signed (List.cons_ne_nil _ _) all, small⟩
    · rintro ⟨⟨-, all⟩ | ⟨-, all⟩, small⟩
      · exact absurd (all '+' List.mem_cons_self) plus
      · exact ⟨all, rfl, small⟩
  · rename_i c rest _ unsigned
    rw [digits]
    constructor
    · rintro ⟨all, rfl, small⟩
      exact ⟨.unsigned (List.cons_ne_nil _ _) all, small⟩
    · rintro ⟨⟨-, all⟩ | ⟨some, -⟩, small⟩
      · exact ⟨all, rfl, small⟩
      · obtain ⟨c', rest', rfl⟩ := List.exists_cons_of_ne_nil some
        exact absurd rfl (unsigned c' rest' rfl)

theorem mem_digitsBefore {n : Nat} {rest : List Char} {c : Char} (h : c ∈ digitsBefore n rest) :
    isDigit c = true ∨ c ∈ rest := by
  have digit {d : Nat} (small : d < 10) : isDigit (digitChar d) = true := by
    rw [isDigit, digitValue?_digitChar small]
    rfl
  induction n, rest using digitsBefore.induct with
  | case1 n rest small =>
    rw [digitsBefore, if_pos small] at h
    rcases List.mem_cons.1 h with rfl | h
    · exact .inl (digit small)
    · exact .inr h
  | case2 n rest large ih =>
    rw [digitsBefore, if_neg large] at h
    rcases ih h with h | h
    · exact .inl h
    · rcases List.mem_cons.1 h with rfl | h
      · exact .inl (digit (Nat.mod_lt n (by decide)))
      · exact .inr h

theorem exists_digitChar_of_isDigit {c : Char} (h : isDigit c = true) : ∃ d < 10, c = digitChar d := by
  obtain ⟨d, digit⟩ := Option.isSome_iff_exists.1 h
  unfold digitValue? at digit
  split at digit
  · next range =>
    have low : 48 ≤ c.toNat := range.1
    have high : c.toNat ≤ 57 := range.2
    refine ⟨c.toNat - 48, by omega, ?_⟩
    rw [digitChar, show '0'.toNat + (c.toNat - 48) = c.toNat from Nat.add_sub_cancel' low, Char.ofNat_toNat]
  · cases digit

theorem digitsBefore_ne_nil (n : Nat) (rest : List Char) : digitsBefore n rest ≠ [] := by
  induction n, rest using digitsBefore.induct with
  | case1 n rest small => rw [digitsBefore, if_pos small]; exact List.cons_ne_nil _ _
  | case2 n rest large ih => rwa [digitsBefore, if_neg large]

/-- One more digit of a number within the bound. -/
theorem readDigits_digitChar {bound acc d : Nat} (small : d < 10) (within : acc * 10 + d ≤ bound)
    (rest : List Char) :
    readDigits bound acc (digitChar d :: rest) = readDigits bound (acc * 10 + d) rest := by
  simp only [readDigits, digitValue?_digitChar small]
  rw [if_neg (by omega)]

/-- The digits of a number are read as that number. -/
theorem readDigits_digitsBefore {bound n : Nat} (within : n ≤ bound) (rest : List Char) :
    readDigits bound 0 (digitsBefore n rest) = readDigits bound n rest := by
  induction n, rest using digitsBefore.induct with
  | case1 n rest small =>
    rw [digitsBefore, if_pos small, readDigits_digitChar small (by omega)]
    simp
  | case2 n rest large ih =>
    have whole : n / 10 * 10 + n % 10 = n := by omega
    rw [digitsBefore, if_neg large, ih (by omega),
      readDigits_digitChar (Nat.mod_lt n (by decide)) (by omega), whole]

theorem readDigits_decimal {bound n : Nat} (within : n ≤ bound) :
    readDigits bound 0 (decimal n).toList = .ok n := by
  rw [decimal, String.toList_ofList, readDigits_digitsBefore within]
  rfl

theorem digitsValue_decimal (n : Nat) : digitsValue (decimal n).toList = n := by
  obtain ⟨-, whole, -⟩ := (readDigits_eq_ok_iff (Nat.zero_le n)).1 (readDigits_decimal (Nat.le_refl n))
  rw [Nat.zero_mul, Nat.zero_add] at whole
  exact whole.symm

theorem isDigit_of_mem_decimal {n : Nat} {c : Char} (h : c ∈ (decimal n).toList) : isDigit c = true := by
  rw [decimal, String.toList_ofList] at h
  exact (mem_digitsBefore h).resolve_right List.not_mem_nil

theorem toList_decimal_ne_nil (n : Nat) : (decimal n).toList ≠ [] := by
  rw [decimal, String.toList_ofList]
  exact digitsBefore_ne_nil n []

/-- What is written in decimal is a numeral. -/
theorem isNumeral_decimal (n : Nat) : IsNumeral (decimal n).toList n := by
  have written := IsNumeral.unsigned (toList_decimal_ne_nil n) fun _ found => isDigit_of_mem_decimal found
  rwa [digitsValue_decimal] at written

theorem decimal_injective : Function.Injective decimal := by
  intro m n same
  have left := readDigits_decimal (Nat.le_max_left m n)
  rw [same, readDigits_decimal (Nat.le_max_right m n)] at left
  exact (Except.ok.inj left).symm

theorem decimalInt_ne_empty (i : Int) : decimalInt i ≠ "" := by
  intro empty
  have none : (decimalInt i).toList = [] := by rw [empty]; rfl
  cases i with
  | ofNat n => exact toList_decimal_ne_nil n none
  | negSucc n => simp [decimalInt] at none

theorem decimalInt_injective : Function.Injective decimalInt := by
  -- A sign is no digit.
  have unsigned (m n : Nat) : decimal m ≠ "-" ++ decimal n := by
    intro same
    have sign : '-' ∈ (decimal m).toList := by
      rw [same, String.toList_append]
      exact List.mem_append_left _ (List.mem_singleton_self _)
    exact absurd (isDigit_of_mem_decimal sign) (by decide)
  intro i j same
  cases i with
  | ofNat m =>
    cases j with
    | ofNat n => exact congrArg Int.ofNat (decimal_injective same)
    | negSucc n => exact absurd same (unsigned _ _)
  | negSucc m =>
    cases j with
    | ofNat n => exact absurd same.symm (unsigned _ _)
    | negSucc n =>
      have equal := decimal_injective ((String.append_right_inj _).1 same)
      rw [Nat.succ.inj equal]

end EdgePlane.Text
