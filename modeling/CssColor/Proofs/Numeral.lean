import CssColor.Number.Fixed
import Mathlib

/-!
# Decimal numerals

- `IsDecimal`: a finite decimal numeral: digits, with a point and more digits or
  without, with a power of ten or without.
- `digitCount_fixedUnits_le`: rounding to decimal places needs no more digits than
  it is given.
- `withoutEndZeros`, `trimFraction_pointed`: **trimming leaves the whole part** and
  what is left of the fraction.
-/

namespace CssColor

/-! ## Numerals -/

/-- One or more decimal digits. -/
def IsDigits (t : Text) : Prop :=
  t ≠ [] ∧ ∀ c ∈ t, isAsciiDigit c = true

instance (t : Text) : Decidable (IsDigits t) :=
  inferInstanceAs (Decidable (t ≠ [] ∧ ∀ c ∈ t, isAsciiDigit c = true))

/-- Digits, with a point and more digits or without. -/
def IsMantissa (t : Text) : Prop :=
  IsDigits t ∨ ∃ whole part, IsDigits whole ∧ IsDigits part ∧ t = whole ++ '.' :: part

/-- Nothing, or a power of ten. -/
def IsPower (t : Text) : Prop :=
  t = [] ∨ ∃ sign digits, (sign = '+' ∨ sign = '-') ∧ IsDigits digits ∧ t = 'e' :: sign :: digits

/-- A finite decimal numeral, negative or not. -/
def IsDecimal (t : Text) : Prop :=
  ∃ (negative : Bool) (mantissa power : Text), IsMantissa mantissa ∧ IsPower power ∧
    t = (if negative then ['-'] else []) ++ mantissa ++ power

section Digits

variable {t u : Text}

theorem IsDigits.append_left (h : IsDigits t) (hu : ∀ c ∈ u, isAsciiDigit c = true) :
    IsDigits (u ++ t) := by
  refine ⟨fun hnil => h.1 (List.append_eq_nil_iff.mp hnil).2, fun c hc => ?_⟩
  rcases List.mem_append.mp hc with hc | hc
  · exact hu c hc
  · exact h.2 c hc

theorem IsDigits.take (h : IsDigits t) {n : Nat} (hn : 0 < n) : IsDigits (t.take n) := by
  refine ⟨fun hnil => ?_, fun c hc => h.2 c (List.mem_of_mem_take hc)⟩
  rcases List.take_eq_nil_iff.mp hnil with hzero | hnil
  · omega
  · exact h.1 hnil

theorem isAsciiDigit_zeros (n : Nat) : ∀ c ∈ List.replicate n '0', isAsciiDigit c = true := by
  intro c hc
  rw [(List.mem_replicate.mp hc).2]
  decide

theorem isDigits_toDigits (n : Nat) : IsDigits (Nat.toDigits 10 n) :=
  ⟨Nat.toDigits_ne_nil, fun _ hc => Nat.isDigit_of_mem_toDigits (by decide) (by decide) hc⟩

/-- A numeral is digits, signs, a point and the letter of its power. -/
theorem IsDecimal.forall_mem (h : IsDecimal t) :
    ∀ c ∈ t, isAsciiDigit c = true ∨ c ∈ "+-.e".toList := by
  have hsigns : '-' ∈ "+-.e".toList ∧ '+' ∈ "+-.e".toList ∧ '.' ∈ "+-.e".toList ∧
      'e' ∈ "+-.e".toList := by
    decide
  obtain ⟨negative, mantissa, power, hmantissa, hpower, rfl⟩ := h
  intro c hc
  rcases List.mem_append.mp hc with hc | hc
  · rcases List.mem_append.mp hc with hc | hc
    · cases negative with
      | false => cases hc
      | true =>
        rw [List.mem_singleton.mp hc]
        exact Or.inr hsigns.1
    · rcases hmantissa with hdigits | ⟨whole, part, hwhole, hpart, rfl⟩
      · exact Or.inl (hdigits.2 c hc)
      · rcases List.mem_append.mp hc with hc | hc
        · exact Or.inl (hwhole.2 c hc)
        · rcases List.mem_cons.mp hc with rfl | hc
          · exact Or.inr hsigns.2.2.1
          · exact Or.inl (hpart.2 c hc)
  · rcases hpower with rfl | ⟨sign, digits, hsign, hdigits, rfl⟩
    · cases hc
    · rcases List.mem_cons.mp hc with rfl | hc
      · exact Or.inr hsigns.2.2.2
      · rcases List.mem_cons.mp hc with rfl | hc
        · rcases hsign with rfl | rfl
          · exact Or.inr hsigns.2.1
          · exact Or.inr hsigns.1
        · exact Or.inl (hdigits.2 c hc)

theorem IsDecimal.ne_nil (h : IsDecimal t) : t ≠ [] := by
  obtain ⟨negative, mantissa, power, hmantissa, -, rfl⟩ := h
  have hne : mantissa ≠ [] := by
    rcases hmantissa with hdigits | ⟨whole, part, -, -, rfl⟩
    · exact hdigits.1
    · simp
  simp [hne]

theorem isDecimal_mantissa (negative : Bool) {mantissa : Text} (h : IsMantissa mantissa) :
    IsDecimal ((if negative then ['-'] else []) ++ mantissa) :=
  ⟨negative, mantissa, [], h, Or.inl rfl, (List.append_nil _).symm⟩

end Digits

/-! ## Decimal places -/

theorem lt_pow_digitCount (n : Nat) : n < 10 ^ digitCount n :=
  (Nat.length_toDigits_le_iff (by decide) Nat.length_toDigits_pos).mp (Nat.le_refl _)

/-- A number has no more digits than its first one needs. -/
theorem pow_digitCount_le {n : Nat} (hn : 0 < n) : 10 ^ (digitCount n - 1) ≤ n := by
  by_contra hless
  have hpos : 0 < digitCount n := Nat.length_toDigits_pos
  rcases Nat.eq_zero_or_pos (digitCount n - 1) with hone | hmore
  · rw [hone] at hless
    omega
  · have hshort : digitCount n ≤ digitCount n - 1 :=
      (Nat.length_toDigits_le_iff (by decide) hmore).mpr (Nat.lt_of_not_le hless)
    omega

/-- Rounding to decimal places carries into one more digit at most. -/
theorem digitCount_fixedUnits_le (significand : Nat) (exponent : Int) (places : Nat) :
    digitCount (fixedUnits significand exponent places) ≤
      fixedWidth significand exponent places := by
  rw [fixedUnits, fixedWidth, roundQuotientAway, digitCount, digitCount]
  generalize significand * Nat.pow 2 exponent.toNat = num
  have hden : 0 < Nat.pow 2 (-exponent).toNat := Nat.two_pow_pos _
  generalize Nat.pow 2 (-exponent).toNat = den at hden
  have hwhole := lt_pow_digitCount (num / den)
  rw [digitCount] at hwhole
  rw [Nat.length_toDigits_le_iff (by decide) (by omega)]
  generalize (Nat.toDigits 10 (num / den)).length = width at hwhole
  generalize hpow : Nat.pow 10 places = pow
  -- the units of the next whole number are not passed
  have hunits : (2 * (num * pow) + den) / (2 * den) ≤ (num / den + 1) * pow := by
    have hbelow : num * pow ≤ den * (num / den + 1) * pow :=
      Nat.mul_le_mul_right pow (Nat.le_of_lt (Nat.lt_mul_div_succ num hden))
    have hscale : ((num / den + 1) * pow + 1) * (2 * den) =
        2 * (den * (num / den + 1) * pow) + 2 * den := by
      rw [Nat.succ_mul, Nat.mul_comm, Nat.mul_assoc 2, Nat.mul_assoc den]
    rw [← Nat.lt_succ_iff, Nat.div_lt_iff_lt_mul (by omega), Nat.succ_eq_add_one, hscale]
    omega
  calc (2 * (num * pow) + den) / (2 * den)
      ≤ (num / den + 1) * pow := hunits
    _ ≤ 10 ^ width * 10 ^ places := Nat.mul_le_mul hwhole (Nat.le_of_eq hpow.symm)
    _ = 10 ^ (width + places) := (Nat.pow_add 10 width places).symm
    _ < 10 ^ (width + 1 + places) := Nat.pow_lt_pow_right (by decide) (by omega)

/-! ## Zeros at the end -/

/-- A point and the digits behind it; no digits need no point. -/
def fractionText (part : Text) : Text :=
  if part = [] then [] else '.' :: part

/-- A text without the zeros at its end. -/
def withoutEndZeros (t : Text) : Text :=
  (t.reverse.dropWhile (· == '0')).reverse

/-- Only zeros at the end are left out. -/
theorem exists_endZeros (t : Text) :
    ∃ count, t = withoutEndZeros t ++ List.replicate count '0' := by
  have hzeros : ∀ c ∈ t.reverse.takeWhile (· == '0'), c = '0' :=
    fun c hc => beq_iff_eq.mp (List.mem_takeWhile_imp (p := (· == '0')) hc)
  refine ⟨(t.reverse.takeWhile (· == '0')).length, ?_⟩
  rw [withoutEndZeros, ← List.reverse_replicate, ← List.eq_replicate_of_mem hzeros,
    ← List.reverse_append, List.takeWhile_append_dropWhile, List.reverse_reverse]

/-- All of them are. -/
theorem getLast?_withoutEndZeros (t : Text) : (withoutEndZeros t).getLast? ≠ some '0' := by
  rw [withoutEndZeros, List.getLast?_reverse]
  intro hlast
  have hnot := List.head?_dropWhile_not (· == '0') t.reverse
  rw [hlast] at hnot
  exact absurd hnot (by decide)

theorem isAsciiDigit_withoutEndZeros {part : Text} (hpart : ∀ c ∈ part, isAsciiDigit c = true) :
    ∀ c ∈ withoutEndZeros part, isAsciiDigit c = true := by
  obtain ⟨count, heq⟩ := exists_endZeros part
  rw [heq] at hpart
  exact fun c hc => hpart c (List.mem_append_left _ hc)

/-- **Trimming leaves the whole part, and of the fraction what is left of it**; the point goes with
the last digit behind it. -/
theorem trimFraction_pointed (whole : Text) {part : Text}
    (hpart : ∀ c ∈ part, isAsciiDigit c = true) :
    trimFraction (whole ++ '.' :: part) = whole ++ fractionText (withoutEndZeros part) := by
  have hreverse : (whole ++ '.' :: part).reverse = part.reverse ++ '.' :: whole.reverse := by simp
  have hdigits := isAsciiDigit_withoutEndZeros hpart
  rw [trimFraction, hreverse, List.dropWhile_append]
  rw [withoutEndZeros] at hdigits ⊢
  cases hkept : part.reverse.dropWhile (· == '0') with
  | nil => simp [fractionText]
  | cons last kept =>
    have hlast : last ≠ '.' := by
      rintro rfl
      rw [hkept] at hdigits
      exact absurd (hdigits '.' (by simp)) (by decide)
    rw [if_neg (by simp), fractionText, if_neg (by simp)]
    split
    · rename_i heq
      exact absurd (List.cons.inj heq).1 hlast
    · simp

end CssColor
