import EdgePlane.Text.Base64
import Mathlib.Algebra.Ring.Nat
import Mathlib.Data.List.Basic

/-!
# Canonical encodings

The encoded form of bytes is canonical: decoding accepts just the texts that encoding writes, and gives the
bytes back. Those texts are told by their form alone, and texts with their UTF-8 bytes by their encoding.
-/

namespace EdgePlane.Text.Base64

/-- The characters of the alphabet in the order of their values. -/
def alphabet : List Char := "ABCDEFGHIJKLMNOPQRSTUVWXYZabcdefghijklmnopqrstuvwxyz0123456789+/".toList

/-- Whether characters have the form of an encoding: digits of the alphabet and at most two characters of
padding in groups of four. For each character of padding the last digit has two bits that are clear. -/
def IsCanonical (cs : List Char) : Prop :=
  ∃ digits padding, cs = digits ++ List.replicate padding '=' ∧ padding ≤ 2 ∧
    4 ∣ digits.length + padding ∧ (∀ c ∈ digits, c ∈ alphabet) ∧
    ∀ c ∈ digits.getLast?, 4 ^ padding ∣ alphabet.idxOf c

variable {p q r s n : Nat} {c : Char} {cs : List Char} {bs : List UInt8}

theorem valueOf?_charOf (h : n < 64) : valueOf? (charOf n) = some n := by
  have all : ∀ n < 64, valueOf? (charOf n) = some n := by decide +kernel
  exact all n h

theorem idxOf_charOf (h : n < 64) : charOf n ∈ alphabet ∧ alphabet.idxOf (charOf n) = n := by
  have all : ∀ n < 64, charOf n ∈ alphabet ∧ alphabet.idxOf (charOf n) = n := by decide +kernel
  exact all n h

/-- A character with a value is the character of the value. -/
theorem charOf_of_valueOf? (h : valueOf? c = some n) : n < 64 ∧ charOf n = c := by
  have shifted {base : Nat} (least : base ≤ c.toNat) : Char.ofNat (base + (c.toNat - base)) = c := by
    rw [Nat.add_sub_cancel' least, Char.ofNat_toNat]
  unfold valueOf? at h
  split at h
  · rename_i upper
    have least : 65 ≤ c.toNat := upper.1
    have greatest : c.toNat ≤ 90 := upper.2
    obtain rfl : c.toNat - 65 = n := Option.some.inj h
    refine ⟨by omega, ?_⟩
    rw [charOf, if_pos (by omega)]
    exact shifted least
  split at h
  · rename_i lower
    have least : 97 ≤ c.toNat := lower.1
    have greatest : c.toNat ≤ 122 := lower.2
    obtain rfl : c.toNat - 97 + 26 = n := Option.some.inj h
    refine ⟨by omega, ?_⟩
    rw [charOf, if_neg (by omega), if_pos (by omega), Nat.add_sub_cancel]
    exact shifted least
  split at h
  · rename_i digit
    have least : 48 ≤ c.toNat := digit.1
    have greatest : c.toNat ≤ 57 := digit.2
    obtain rfl : c.toNat - 48 + 52 = n := Option.some.inj h
    refine ⟨by omega, ?_⟩
    rw [charOf, if_neg (by omega), if_neg (by omega), if_pos (by omega), Nat.add_sub_cancel]
    exact shifted least
  split at h
  · rename_i plus
    obtain rfl := Option.some.inj h
    exact ⟨by decide, plus.symm⟩
  split at h
  · rename_i slash
    obtain rfl := Option.some.inj h
    exact ⟨by decide, slash.symm⟩
  · cases h

/-- A byte that is made of the bits of two values holds them. -/
theorem toNat_ofNat (h : n < 256) : (UInt8.ofNat n).toNat = n := by
  rw [UInt8.toNat_ofNat']
  exact Nat.mod_eq_of_lt h

/-- The bytes of a group are spread over its characters. -/
theorem encode_threeBytes (hp : p < 64) (hq : q < 64) (hr : r < 64) (hs : s < 64) (bs : List UInt8) :
    encode (threeBytes p q r s ++ bs) = charOf p :: charOf q :: charOf r :: charOf s :: encode bs := by
  have first : (p * 4 + q / 16) / 4 = p := by omega
  have second : (p * 4 + q / 16) % 4 * 16 + (q % 16 * 16 + r / 4) / 16 = q := by omega
  have third : (q % 16 * 16 + r / 4) % 16 * 4 + (r % 4 * 64 + s) / 64 = r := by omega
  have fourth : (r % 4 * 64 + s) % 64 = s := by omega
  rw [threeBytes, List.cons_append, List.cons_append, List.cons_append, List.nil_append, encode,
    toNat_ofNat (by omega), toNat_ofNat (by omega), toNat_ofNat (by omega), first, second, third, fourth]

theorem encode_of_twoBytes? (hp : p < 64) (hq : q < 64) (hr : r < 64) (h : twoBytes? p q r = some bs) :
    encode bs = [charOf p, charOf q, charOf r, '='] := by
  unfold twoBytes? at h
  split at h
  · obtain rfl := Option.some.inj h
    have first : (p * 4 + q / 16) / 4 = p := by omega
    have second : (p * 4 + q / 16) % 4 * 16 + (q % 16 * 16 + r / 4) / 16 = q := by omega
    have third : (q % 16 * 16 + r / 4) % 16 * 4 = r := by omega
    rw [encode, toNat_ofNat (by omega), toNat_ofNat (by omega), first, second, third]
  · cases h

theorem encode_of_oneByte? (hp : p < 64) (hq : q < 64) (h : oneByte? p q = some bs) :
    encode bs = [charOf p, charOf q, '=', '='] := by
  unfold oneByte? at h
  split at h
  · obtain rfl := Option.some.inj h
    have first : (p * 4 + q / 16) / 4 = p := by omega
    have second : (p * 4 + q / 16) % 4 * 16 = q := by omega
    rw [encode, toNat_ofNat (by omega), first, second]
  · cases h

/-- Padding has no value. -/
theorem ne_padding_of_valueOf? (h : valueOf? c = some n) : c ≠ '=' := by
  rintro rfl
  have none : valueOf? '=' = none := by decide
  rw [none] at h
  cases h

/-- A group of four characters with values is decoded by itself. -/
theorem decode?_group {a b d : Char} (ha : valueOf? a = some p) (hb : valueOf? b = some q)
    (hc : valueOf? c = some r) (hd : valueOf? d = some s) (cs : List Char) :
    decode? (a :: b :: c :: d :: cs) = (decode? cs).map (threeBytes p q r s ++ ·) := by
  have unpadded := ne_padding_of_valueOf? hd
  rw [decode?, ha, hb, hc, hd]
  · cases decode? cs <;> rfl
  · exact fun _ padding _ => unpadded padding
  · exact fun padding _ => unpadded padding

/-- Only what encoding writes is decoded. -/
theorem encode_of_decode? (h : decode? cs = some bs) : encode bs = cs := by
  fun_induction decode? cs generalizing bs with
  | case1 =>
    obtain rfl := Option.some.inj h
    rfl
  | case2 a b =>
    obtain ⟨p, hp, h₁⟩ := Option.bind_eq_some_iff.1 h
    obtain ⟨q, hq, h₂⟩ := Option.bind_eq_some_iff.1 h₁
    obtain ⟨smallP, rfl⟩ := charOf_of_valueOf? hp
    obtain ⟨smallQ, rfl⟩ := charOf_of_valueOf? hq
    exact encode_of_oneByte? smallP smallQ h₂
  | case3 a b c _ =>
    obtain ⟨p, hp, h₁⟩ := Option.bind_eq_some_iff.1 h
    obtain ⟨q, hq, h₂⟩ := Option.bind_eq_some_iff.1 h₁
    obtain ⟨r, hr, h₃⟩ := Option.bind_eq_some_iff.1 h₂
    obtain ⟨smallP, rfl⟩ := charOf_of_valueOf? hp
    obtain ⟨smallQ, rfl⟩ := charOf_of_valueOf? hq
    obtain ⟨smallR, rfl⟩ := charOf_of_valueOf? hr
    exact encode_of_twoBytes? smallP smallQ smallR h₃
  | case4 a b c d rest _ _ ih =>
    obtain ⟨p, hp, h₁⟩ := Option.bind_eq_some_iff.1 h
    obtain ⟨q, hq, h₂⟩ := Option.bind_eq_some_iff.1 h₁
    obtain ⟨r, hr, h₃⟩ := Option.bind_eq_some_iff.1 h₂
    obtain ⟨s, hs, h₄⟩ := Option.bind_eq_some_iff.1 h₃
    obtain ⟨others, later, whole⟩ := Option.bind_eq_some_iff.1 h₄
    obtain ⟨smallP, rfl⟩ := charOf_of_valueOf? hp
    obtain ⟨smallQ, rfl⟩ := charOf_of_valueOf? hq
    obtain ⟨smallR, rfl⟩ := charOf_of_valueOf? hr
    obtain ⟨smallS, rfl⟩ := charOf_of_valueOf? hs
    rw [← Option.some.inj whole, encode_threeBytes smallP smallQ smallR smallS, ih later]
  | case5 => cases h

/-- What encoding writes is decoded. -/
theorem decode?_encode (bs : List UInt8) : decode? (encode bs) = some bs := by
  fun_induction encode bs with
  | case1 => rfl
  | case2 a =>
    have := a.toNat_lt
    have whole : a.toNat / 4 * 4 + a.toNat % 4 * 16 / 16 = a.toNat := by omega
    have clear : a.toNat % 4 * 16 % 16 = 0 := by omega
    rw [decode?, valueOf?_charOf (by omega), valueOf?_charOf (by omega)]
    change oneByte? (a.toNat / 4) (a.toNat % 4 * 16) = some [a]
    rw [oneByte?, if_pos clear, whole, UInt8.ofNat_toNat]
  | case3 a b =>
    have := a.toNat_lt
    have := b.toNat_lt
    have first : a.toNat / 4 * 4 + (a.toNat % 4 * 16 + b.toNat / 16) / 16 = a.toNat := by omega
    have second : (a.toNat % 4 * 16 + b.toNat / 16) % 16 * 16 + b.toNat % 16 * 4 / 4 = b.toNat := by omega
    have clear : b.toNat % 16 * 4 % 4 = 0 := by omega
    rw [decode?, valueOf?_charOf (by omega), valueOf?_charOf (by omega), valueOf?_charOf (by omega)]
    · change twoBytes? (a.toNat / 4) (a.toNat % 4 * 16 + b.toNat / 16) (b.toNat % 16 * 4) = some [a, b]
      rw [twoBytes?, if_pos clear, first, second, UInt8.ofNat_toNat, UInt8.ofNat_toNat]
    · intro padding
      exact absurd padding (ne_padding_of_valueOf? (valueOf?_charOf (by omega)))
  | case4 a b c rest ih =>
    have := a.toNat_lt
    have := b.toNat_lt
    have := c.toNat_lt
    have first : a.toNat / 4 * 4 + (a.toNat % 4 * 16 + b.toNat / 16) / 16 = a.toNat := by omega
    have second : (a.toNat % 4 * 16 + b.toNat / 16) % 16 * 16 + (b.toNat % 16 * 4 + c.toNat / 64) / 4 =
        b.toNat := by omega
    have third : (b.toNat % 16 * 4 + c.toNat / 64) % 4 * 64 + c.toNat % 64 = c.toNat := by omega
    rw [decode?_group (valueOf?_charOf (by omega)) (valueOf?_charOf (by omega))
      (valueOf?_charOf (by omega)) (valueOf?_charOf (by omega)), ih, threeBytes, first, second, third,
      UInt8.ofNat_toNat, UInt8.ofNat_toNat, UInt8.ofNat_toNat]
    rfl

theorem decode?_eq_some_iff : decode? cs = some bs ↔ encode bs = cs := by
  constructor
  · exact encode_of_decode?
  · rintro rfl
    exact decode?_encode bs

theorem exists_of_mem_alphabet (h : c ∈ alphabet) : ∃ n < 64, charOf n = c := by
  have all : alphabet.all (fun c => (List.range 64).any fun n => charOf n == c) = true := by decide +kernel
  obtain ⟨n, small, same⟩ := List.any_eq_true.1 (List.all_eq_true.1 all c h)
  exact ⟨n, List.mem_range.1 small, beq_iff_eq.1 same⟩

/-- A group of four digits may stand in front. -/
theorem IsCanonical.group {a b d : Char} (digits : ∀ x ∈ [a, b, c, d], x ∈ alphabet) (h : IsCanonical cs) :
    IsCanonical (a :: b :: c :: d :: cs) := by
  obtain ⟨ds, padding, rfl, few, groups, inside, clear⟩ := h
  refine ⟨[a, b, c, d] ++ ds, padding, rfl, few, ?_, ?_, ?_⟩
  · rw [List.length_append, List.length_cons, List.length_cons, List.length_cons, List.length_singleton]
    omega
  · exact List.forall_mem_append.2 ⟨digits, inside⟩
  · intro x last
    rw [List.getLast?_append] at last
    cases ds with
    | nil =>
      obtain rfl : padding = 0 := by
        rw [List.length_nil] at groups
        omega
      exact Nat.one_dvd _
    | cons e ds =>
      rw [List.getLast?_cons, Option.some_or] at last
      exact clear x (by rwa [List.getLast?_cons])

/-- What encoding writes has the canonical form. -/
theorem isCanonical_encode (bs : List UInt8) : IsCanonical (encode bs) := by
  fun_induction encode bs with
  | case1 => exact ⟨[], 0, rfl, by decide, by decide, by simp, by simp⟩
  | case2 a =>
    have := a.toNat_lt
    obtain ⟨firstIn, -⟩ := idxOf_charOf (show a.toNat / 4 < 64 by omega)
    obtain ⟨lastIn, last⟩ := idxOf_charOf (show a.toNat % 4 * 16 < 64 by omega)
    refine ⟨[charOf (a.toNat / 4), charOf (a.toNat % 4 * 16)], 2, rfl, by decide, ⟨1, rfl⟩, ?_, ?_⟩
    · simpa using ⟨firstIn, lastIn⟩
    · intro x same
      obtain rfl : charOf (a.toNat % 4 * 16) = x := Option.some.inj same
      rw [last]
      exact Nat.dvd_mul_left 16 _
  | case3 a b =>
    have := a.toNat_lt
    have := b.toNat_lt
    obtain ⟨firstIn, -⟩ := idxOf_charOf (show a.toNat / 4 < 64 by omega)
    obtain ⟨secondIn, -⟩ := idxOf_charOf (show a.toNat % 4 * 16 + b.toNat / 16 < 64 by omega)
    obtain ⟨lastIn, last⟩ := idxOf_charOf (show b.toNat % 16 * 4 < 64 by omega)
    refine ⟨[charOf (a.toNat / 4), charOf (a.toNat % 4 * 16 + b.toNat / 16), charOf (b.toNat % 16 * 4)], 1,
      rfl, by decide, ⟨1, rfl⟩, ?_, ?_⟩
    · simpa using ⟨firstIn, secondIn, lastIn⟩
    · intro x same
      obtain rfl : charOf (b.toNat % 16 * 4) = x := Option.some.inj same
      rw [last]
      exact Nat.dvd_mul_left 4 _
  | case4 a b c rest ih =>
    have := a.toNat_lt
    have := b.toNat_lt
    have := c.toNat_lt
    refine ih.group ?_
    simp only [List.forall_mem_cons]
    exact ⟨(idxOf_charOf (by omega)).1, (idxOf_charOf (by omega)).1, (idxOf_charOf (by omega)).1,
      (idxOf_charOf (by omega)).1, List.forall_mem_nil _⟩

/-- Digits and padding of the canonical form encode some bytes. -/
theorem exists_encode {padding : Nat} (few : padding ≤ 2) : (digits : List Char) →
    4 ∣ digits.length + padding → (∀ c ∈ digits, c ∈ alphabet) →
    (∀ c ∈ digits.getLast?, 4 ^ padding ∣ alphabet.idxOf c) →
    ∃ bs, encode bs = digits ++ List.replicate padding '='
  | [], groups, _, _ => by
    obtain rfl : padding = 0 := by
      rw [List.length_nil] at groups
      omega
    exact ⟨[], rfl⟩
  | [_], groups, _, _ => by
    rw [List.length_singleton] at groups
    omega
  | [a, b], groups, inside, clear => by
    obtain rfl : padding = 2 := by
      rw [List.length_cons, List.length_singleton] at groups
      omega
    obtain ⟨p, hp, rfl⟩ := exists_of_mem_alphabet (inside a (by simp))
    obtain ⟨q, hq, rfl⟩ := exists_of_mem_alphabet (inside b (by simp))
    have bits := clear (charOf q) rfl
    rw [(idxOf_charOf hq).2] at bits
    exact ⟨_, encode_of_oneByte? hp hq (if_pos (Nat.mod_eq_zero_of_dvd bits))⟩
  | [a, b, c], groups, inside, clear => by
    obtain rfl : padding = 1 := by
      rw [List.length_cons, List.length_cons, List.length_singleton] at groups
      omega
    obtain ⟨p, hp, rfl⟩ := exists_of_mem_alphabet (inside a (by simp))
    obtain ⟨q, hq, rfl⟩ := exists_of_mem_alphabet (inside b (by simp))
    obtain ⟨r, hr, rfl⟩ := exists_of_mem_alphabet (inside c (by simp))
    have bits := clear (charOf r) rfl
    rw [(idxOf_charOf hr).2] at bits
    exact ⟨_, encode_of_twoBytes? hp hq hr (if_pos (Nat.mod_eq_zero_of_dvd bits))⟩
  | a :: b :: c :: d :: digits, groups, inside, clear => by
    obtain ⟨p, hp, rfl⟩ := exists_of_mem_alphabet (inside a (by simp))
    obtain ⟨q, hq, rfl⟩ := exists_of_mem_alphabet (inside b (by simp))
    obtain ⟨r, hr, rfl⟩ := exists_of_mem_alphabet (inside c (by simp))
    obtain ⟨s, hs, rfl⟩ := exists_of_mem_alphabet (inside d (by simp))
    obtain ⟨bs, later⟩ := exists_encode few digits
      (by simp only [List.length_cons] at groups; omega)
      (fun x found => inside x (by simp [found]))
      (fun x last => clear x (by
        rw [show charOf p :: charOf q :: charOf r :: charOf s :: digits =
          [charOf p, charOf q, charOf r, charOf s] ++ digits from rfl, List.getLast?_append]
        rw [Option.mem_def.1 last]
        rfl))
    exact ⟨_, (encode_threeBytes hp hq hr hs bs).trans (by rw [later]; rfl)⟩

/-- The canonical form is that of the texts that encode some bytes. -/
theorem isCanonical_iff : IsCanonical cs ↔ ∃ bs, encode bs = cs := by
  constructor
  · rintro ⟨digits, padding, rfl, few, groups, inside, clear⟩
    exact exists_encode few digits groups inside clear
  · rintro ⟨bs, rfl⟩
    exact isCanonical_encode bs

/-- Bytes are read as the text of which they are the UTF-8 form. -/
theorem textOfBytes?_eq_some_iff {text : String} :
    textOfBytes? bs = some text ↔ text.toUTF8.data.toList = bs := by
  unfold textOfBytes? String.fromUTF8?
  constructor
  · intro read
    split at read
    · obtain rfl := Option.some.inj read
      rfl
    · cases read
  · rintro rfl
    exact dif_pos text.isValidUTF8

/-- A text is read from an encoding just if it is the one that was encoded. -/
theorem decodeText?_eq_some_iff {s text : String} : decodeText? s = some text ↔ encodeText text = s := by
  have whole : encodeText text = s ↔ encode text.toUTF8.data.toList = s.toList := by
    rw [← String.toList_inj, encodeText, String.toList_ofList]
  simp only [decodeText?, Option.bind_eq_some_iff, decode?_eq_some_iff, textOfBytes?_eq_some_iff, whole]
  constructor
  · rintro ⟨bs, encoded, rfl⟩
    exact encoded
  · intro encoded
    exact ⟨_, encoded, rfl⟩

/-- A text encodes no other just if it does not have the canonical form or its bytes are no text. -/
theorem decodeText?_eq_none_iff {s : String} : decodeText? s = none ↔
    ¬ IsCanonical s.toList ∨ ∃ bs, encode bs = s.toList ∧ ∀ text : String, text.toUTF8.data.toList ≠ bs := by
  rw [isCanonical_iff, decodeText?]
  constructor
  · intro unread
    by_cases canonical : ∃ bs, encode bs = s.toList
    · obtain ⟨bs, encoded⟩ := canonical
      rw [decode?_eq_some_iff.2 encoded, Option.bind_some] at unread
      refine .inr ⟨bs, encoded, fun text bytes => ?_⟩
      rw [textOfBytes?_eq_some_iff.2 bytes] at unread
      cases unread
    · exact .inl canonical
  · intro defect
    refine Option.eq_none_iff_forall_ne_some.2 fun text read => ?_
    obtain ⟨bs, decoded, bytes⟩ := Option.bind_eq_some_iff.1 read
    have encoded := decode?_eq_some_iff.1 decoded
    rcases defect with formless | ⟨bs', encoded', foreign⟩
    · exact formless ⟨bs, encoded⟩
    · obtain rfl : bs = bs' := Option.some.inj (decoded.symm.trans (decode?_eq_some_iff.2 encoded'))
      exact foreign text (textOfBytes?_eq_some_iff.1 bytes)

end EdgePlane.Text.Base64
