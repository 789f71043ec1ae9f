import CssColor.Proofs.NearestDouble
import CssColor.Proofs.PlainNumber
import CssColor.Proofs.WholeNumber

/-!
# Numbers are read as the nearest double

A decimal number is read as a quotient of whole numbers. The quotient is scaled
until its whole part has 53 bits, and then rounded.

- `roundQuotientEven_spec`: rounding a quotient, a tie going to the even number.
- `unitExponent_spec`: the exponent at which a quotient has 53 bits.
- `nearest_roundsTo`: **a quotient rounds to the double that is made of it**.
- `exists_roundsTo_quotient`: below the overflow there is such a double.
- `decimalFloat_roundsTo`, `isNearest_decimalFloat`: the same for numbers in decimal
  notation, also where the count of digits settles what is read.
- `Denotes.exists_double?`: **a text is read as the double nearest to the number
  that it denotes**.
-/

namespace CssColor

namespace Binary64

/-! ## Rounding a quotient -/

section Quotients

variable (num : ℕ) {den : ℕ} (hden : 0 < den)

include hden

/-- A quotient is its whole part and what is left of it. -/
theorem quotient_eq : (num / den : ℚ) = (num / den : ℕ) + (num % den : ℕ) / den := by
  have hpos : (0 : ℚ) < den := Nat.cast_pos.mpr hden
  have hsplit : (num : ℚ) = den * (num / den : ℕ) + (num % den : ℕ) := by
    exact_mod_cast (Nat.div_add_mod num den).symm
  conv_lhs => rw [hsplit, add_div, mul_div_cancel_left₀ _ hpos.ne']

/-- A scaled quotient lies between its whole part and the next value. -/
theorem scaled_quotient_bounds (e : ℤ) :
    scaled (num / den) e ≤ num / den * 2 ^ e ∧
      (num / den * 2 ^ e : ℚ) < scaled (num / den + 1) e := by
  have hpos : (0 : ℚ) < den := Nat.cast_pos.mpr hden
  have hrest : ((num % den : ℕ) : ℚ) < den := by exact_mod_cast Nat.mod_lt num hden
  rw [scaled, scaled, mul_le_mul_iff_of_pos_right (two_zpow_pos e),
    mul_lt_mul_iff_of_pos_right (two_zpow_pos e), quotient_eq num hden, Nat.cast_succ,
    le_add_iff_nonneg_right, add_lt_add_iff_left, div_lt_one hpos]
  exact ⟨by positivity, hrest⟩

/-- **A quotient is rounded down below its half and up above it**; a half is rounded to the even
number. -/
theorem roundQuotientEven_spec :
    (roundQuotientEven num den = num / den ∧ (num / den : ℚ) ≤ (num / den : ℕ) + 1 / 2 ∧
        ((num / den : ℚ) = (num / den : ℕ) + 1 / 2 → num / den % 2 = 0)) ∨
      (roundQuotientEven num den = num / den + 1 ∧ ((num / den : ℕ) : ℚ) + 1 / 2 ≤ num / den ∧
        ((num / den : ℚ) = (num / den : ℕ) + 1 / 2 → num / den % 2 = 1)) := by
  have hpos : (0 : ℚ) < den := Nat.cast_pos.mpr hden
  have hle : (num / den : ℚ) ≤ (num / den : ℕ) + 1 / 2 ↔ num % den * 2 ≤ 1 * den := by
    rw [quotient_eq num hden, add_le_add_iff_left, div_le_div_iff₀ hpos two_pos]
    exact_mod_cast Iff.rfl
  have hge : ((num / den : ℕ) : ℚ) + 1 / 2 ≤ num / den ↔ 1 * den ≤ num % den * 2 := by
    rw [quotient_eq num hden, add_le_add_iff_left, div_le_div_iff₀ two_pos hpos]
    exact_mod_cast Iff.rfl
  have htie : (num / den : ℚ) = (num / den : ℕ) + 1 / 2 ↔ num % den * 2 = 1 * den := by
    rw [le_antisymm_iff, hle, hge, ← le_antisymm_iff]
  rw [hle, hge, htie, roundQuotientEven]
  split <;> omega

end Quotients

/-! ## The unit in the last place -/

section UnitExponent

variable {num den : ℕ} (hnum : 0 < num) (hden : 0 < den)

include hnum hden

/-- The bits of both parts tell a quotient up to a factor of two. -/
theorem quotient_log_bounds :
    (2 : ℚ) ^ ((num.log2 : ℤ) - den.log2 - 1) < num / den ∧
      (num / den : ℚ) < 2 ^ ((num.log2 : ℤ) - den.log2 + 1) := by
  have hpos : (0 : ℚ) < den := Nat.cast_pos.mpr hden
  have hnumLow : ((2 ^ num.log2 : ℕ) : ℚ) ≤ num := Nat.cast_le.mpr (Nat.log2_self_le hnum.ne')
  have hnumHigh : (num : ℚ) < (2 ^ (num.log2 + 1) : ℕ) := Nat.cast_lt.mpr Nat.lt_log2_self
  have hdenLow : ((2 ^ den.log2 : ℕ) : ℚ) ≤ den := Nat.cast_le.mpr (Nat.log2_self_le hden.ne')
  have hdenHigh : (den : ℚ) < (2 ^ (den.log2 + 1) : ℕ) := Nat.cast_lt.mpr Nat.lt_log2_self
  push_cast at hnumLow hnumHigh hdenLow hdenHigh
  rw [lt_div_iff₀ hpos, div_lt_iff₀ hpos]
  constructor
  · calc (2 : ℚ) ^ ((num.log2 : ℤ) - den.log2 - 1) * den
        < 2 ^ ((num.log2 : ℤ) - den.log2 - 1) * 2 ^ (den.log2 + 1) :=
          mul_lt_mul_of_pos_left hdenHigh (two_zpow_pos _)
      _ = 2 ^ num.log2 := by
          rw [← zpow_natCast, ← zpow_natCast, ← zpow_add₀ two_ne_zero]
          congr 1
          push_cast
          ring
      _ ≤ num := hnumLow
  · calc (num : ℚ) < 2 ^ (num.log2 + 1) := hnumHigh
      _ = 2 ^ ((num.log2 : ℤ) - den.log2 + 1) * 2 ^ den.log2 := by
          rw [← zpow_natCast, ← zpow_natCast, ← zpow_add₀ two_ne_zero]
          congr 1
          push_cast
          ring
      _ ≤ 2 ^ ((num.log2 : ℤ) - den.log2 + 1) * den :=
          mul_le_mul_of_nonneg_left hdenLow (two_zpow_pos _).le

/-- **The unit in the last place** leaves 53 bits, or it is the least one and leaves fewer. -/
theorem unitExponent_spec :
    -1074 ≤ unitExponent num den ∧
      (num / den : ℚ) < scaled (Nat.pow 2 53) (unitExponent num den) ∧
      (scaled (Nat.pow 2 52) (unitExponent num den) ≤ num / den ∨
        unitExponent num den = -1074) := by
  have hpos : (0 : ℚ) < den := Nat.cast_pos.mpr hden
  obtain ⟨hlow, hhigh⟩ := quotient_log_bounds hnum hden
  rw [unitExponent]
  generalize hguess : (num.log2 : ℤ) - den.log2 - 52 = guess
  have hsmall : (if guess < 0 then num * Nat.pow 2 (-guess).toNat < Nat.pow 2 52 * den
      else num < Nat.pow 2 52 * den * Nat.pow 2 guess.toNat) ↔
        (num / den : ℚ) < scaled (Nat.pow 2 52) guess := by
    rw [scaled_eq_div, div_lt_div_iff₀ hpos (by positivity)]
    by_cases hneg : guess < 0
    · rw [if_pos hneg, Int.toNat_of_nonpos hneg.le, pow_zero, mul_one]
      simp only [Nat.pow_eq]
      exact_mod_cast Iff.rfl
    · rw [if_neg hneg, Int.toNat_of_nonpos (by omega : -guess ≤ 0), pow_zero, mul_one,
        mul_right_comm]
      simp only [Nat.pow_eq]
      exact_mod_cast Iff.rfl
  -- one of the two candidates leaves 53 bits
  have hbits : ∃ e, (if (if guess < 0 then num * Nat.pow 2 (-guess).toNat < Nat.pow 2 52 * den
      else num < Nat.pow 2 52 * den * Nat.pow 2 guess.toNat) then guess - 1 else guess) = e ∧
        scaled (Nat.pow 2 52) e ≤ num / den ∧ (num / den : ℚ) < scaled (Nat.pow 2 53) e := by
    by_cases hless : (num / den : ℚ) < scaled (Nat.pow 2 52) guess
    · refine ⟨guess - 1, if_pos (hsmall.mpr hless), ?_, ?_⟩
      · rw [scaled_two_pow]
        refine le_of_eq_of_le (congrArg _ ?_) hlow.le
        omega
      · rw [scaled_two_pow] at hless ⊢
        refine hless.trans_eq (congrArg _ ?_)
        omega
    · refine ⟨guess, if_neg (mt hsmall.mp hless), not_lt.mp hless, ?_⟩
      rw [scaled_two_pow]
      refine hhigh.trans_eq (congrArg _ ?_)
      omega
  obtain ⟨e, he, hfull, hless⟩ := hbits
  rw [he]
  rcases le_total (-1074) e with hplace | hplace
  · rw [max_eq_left hplace]
    exact ⟨hplace, hless, Or.inl hfull⟩
  · rw [max_eq_right hplace]
    refine ⟨le_rfl, hless.trans_le ?_, Or.inr rfl⟩
    rw [scaled_two_pow, scaled_two_pow]
    exact zpow_le_zpow_right₀ one_le_two (by omega)

end UnitExponent

/-! ## The rounded double -/

/-- What is at least this is too large for a double: half a step above the greatest one. -/
def overflow : ℚ :=
  scaled (Nat.pow 2 53 - 1) 971 + 2 ^ (971 : ℤ) / 2

theorem canonical_greatest : Canonical (Nat.pow 2 53 - 1) 971 :=
  ⟨by decide, by decide, Or.inl (by decide)⟩

section Rounding

variable {q : ℚ} {m : ℕ} {e : ℤ}

/-- What rounds to a value that no double has is too large: the greatest double is nearer to
anything below the limit. -/
theorem RoundsTo.exponent_le (hrounds : RoundsTo q m e) (h : Canonical m e)
    (hsmall : q < overflow) : e ≤ 971 := by
  by_contra hlarge
  have hnearest := hrounds.abs_sub_le h canonical_greatest
  have hgreater := scaled_lt_of_exponent_lt canonical_greatest.lt h (not_le.mp hlarge) (by decide)
  have hstep := stepBelow_pos (Nat.pow 2 53 - 1) 971
  have hunit := two_zpow_pos 971
  have hcases := neighbours canonical_greatest h
  rw [overflow] at hsmall
  generalize scaled (Nat.pow 2 53 - 1) 971 = greatest at *
  generalize (2 : ℚ) ^ (971 : ℤ) = unit at *
  rcases hcases with hbelow | heq | habove
  · linarith
  · linarith
  · rw [abs_of_nonneg (by linarith), le_abs] at hnearest
    rcases hnearest with hbelow | habove <;> linarith

/-- What rounds to the value of a double is below the limit: a tie above the greatest double goes to
the even value behind it. -/
theorem RoundsTo.lt_overflow (hrounds : RoundsTo q m e) (h : Canonical m e) (hlarge : e ≤ 971) :
    q < overflow := by
  have hunit := two_zpow_pos e
  have hgreatest := two_zpow_pos 971
  rw [overflow]
  rcases neighbours h canonical_greatest with hbelow | heq | habove
  · have hmore := hbelow.trans_lt (sub_lt_self _ (stepBelow_pos m e))
    have hlt := h.lt
    rw [scaled_lt_iff canonical_greatest h] at hmore
    omega
  · obtain ⟨rfl, rfl⟩ := scaled_inj canonical_greatest h heq
    exact hrounds.upper.lt_of_ne fun htie => absurd (hrounds.even (Or.inr htie)) (by decide)
  · calc q ≤ scaled m e + 2 ^ e / 2 := hrounds.upper
      _ < scaled m e + 2 ^ e := add_lt_add_right (half_lt_self hunit) _
      _ ≤ scaled (Nat.pow 2 53 - 1) 971 := habove
      _ ≤ scaled (Nat.pow 2 53 - 1) 971 + 2 ^ (971 : ℤ) / 2 :=
          le_add_of_nonneg_right (half_pos hgreatest).le

/-- A number that is at most half a step above a value rounds to it. -/
theorem roundsTo_of_le (hlow : scaled m e ≤ q) (hhigh : q ≤ scaled m e + 2 ^ e / 2)
    (heven : q = scaled m e + 2 ^ e / 2 → m % 2 = 0) : RoundsTo q m e := by
  have hstep := stepBelow_pos m e
  refine ⟨by linarith, hhigh, ?_⟩
  rintro (heq | heq)
  · linarith
  · exact heven heq

/-- A number that is at most half a step below the next value rounds to that one. -/
theorem exists_roundsTo_succ (h : Canonical m e) (hlow : scaled m e + 2 ^ e / 2 ≤ q)
    (hhigh : q < scaled (m + 1) e) (hodd : q = scaled m e + 2 ^ e / 2 → m % 2 = 1) :
    ∃ m' e', Canonical m' e' ∧ RoundsTo q m' e' ∧
      (m' = m + 1 ∧ e' = e ∨ m' = Nat.pow 2 52 ∧ e' = e + 1 ∧ m + 1 = Nat.pow 2 53) := by
  obtain ⟨m', e', h', hvalue, hplace⟩ := h.succ
  have hunit := two_zpow_pos e'
  have hsucc := scaled_succ m e
  -- the step down from the next value is the step up to it
  have hstep : stepBelow m' e' = 2 ^ e := by
    rcases hplace with ⟨rfl, rfl⟩ | ⟨rfl, rfl, -⟩
    · have hfull := h.full
      rw [stepBelow, if_neg (by omega)]
    · have hleast := h.least
      rw [stepBelow, if_pos ⟨rfl, by omega⟩, add_sub_cancel_right]
  have hparity : m' % 2 = (m + 1) % 2 := by
    rcases hplace with ⟨rfl, -⟩ | ⟨rfl, -, htop⟩
    · rfl
    · rw [htop]
  refine ⟨m', e', h', ⟨?_, ?_, ?_⟩, hplace⟩
  · rw [hstep, hvalue]
    linarith
  · rw [hvalue]
    linarith
  · rw [hstep, hvalue]
    rintro (heq | heq)
    · have hm := hodd (by linarith)
      omega
    · linarith

end Rounding

section Nearest

variable {num den : ℕ}

/-- **The rounded quotient has the bits of the value that the scaled quotient rounds to**, also
where it is carried into the next power of two. -/
theorem exists_roundsTo_quotient {e : ℤ} (hden : 0 < den) (h : Canonical (num / den) e) :
    ∃ m' e', Canonical m' e' ∧ RoundsTo (num / den * 2 ^ e) m' e' ∧
      (e + 1074).toNat * Nat.pow 2 52 + roundQuotientEven num den =
        (e' + 1074).toNat * Nat.pow 2 52 + m' := by
  have hunit := two_zpow_pos e
  obtain ⟨hlow, hhigh⟩ := scaled_quotient_bounds num hden e
  have hhalf : (((num / den : ℕ) : ℚ) + 1 / 2) * 2 ^ e = scaled (num / den) e + 2 ^ e / 2 := by
    rw [scaled]
    ring
  have htie : (num / den * 2 ^ e : ℚ) = scaled (num / den) e + 2 ^ e / 2 ↔
      (num / den : ℚ) = (num / den : ℕ) + 1 / 2 := by
    rw [← hhalf, mul_left_inj' hunit.ne']
  rcases roundQuotientEven_spec num hden with ⟨hround, hbound, heven⟩ | ⟨hround, hbound, hodd⟩
  · -- rounded down to the whole part
    have hupper := (mul_le_mul_of_nonneg_right hbound hunit.le).trans_eq hhalf
    rw [hround]
    exact ⟨_, _, h, roundsTo_of_le hlow hupper fun heq => heven (htie.mp heq), rfl⟩
  · -- rounded up to the next value, which may have the next exponent
    have hlower := hhalf.symm.trans_le (mul_le_mul_of_nonneg_right hbound hunit.le)
    obtain ⟨m', e', h', hrounds, hplace⟩ :=
      exists_roundsTo_succ h hlower hhigh fun heq => hodd (htie.mp heq)
    have hleast := h.least
    refine ⟨m', e', h', hrounds, ?_⟩
    rw [hround]
    simp only [Nat.pow_eq] at hplace ⊢
    omega

/-- **A quotient rounds to the double that is made of it**, unless it is too large. -/
theorem nearest_roundsTo (hnum : 0 < num) (hden : 0 < den) (negative : Bool)
    (hsmall : (num / den : ℚ) < overflow) :
    ∃ m e, ofFloat (nearest negative num den) = .finite negative m e ∧
      RoundsTo (num / den) m e := by
  obtain ⟨hleast, hless, hfull⟩ := unitExponent_spec hnum hden
  rw [nearest, if_neg hnum.ne']
  dsimp only
  generalize unitExponent num den = e at hleast hless hfull
  -- the scaled quotient, as one quotient of whole numbers
  generalize hN : num * Nat.pow 2 (-e).toNat = N
  generalize hD : den * Nat.pow 2 e.toNat = D
  have hDpos : 0 < D := by
    rw [← hD]
    exact Nat.mul_pos hden (Nat.two_pow_pos _)
  have hsignificand : (if e < 0 then roundQuotientEven N den else roundQuotientEven num D) =
      roundQuotientEven N D := by
    by_cases hneg : e < 0
    · have hone : D = den := by
        rw [← hD, Int.toNat_of_nonpos hneg.le]
        exact Nat.mul_one den
      rw [if_pos hneg, hone]
    · have hone : N = num := by
        rw [← hN, Int.toNat_of_nonpos (by omega)]
        exact Nat.mul_one num
      rw [if_neg hneg, hone]
  have hquotient : (num / den : ℚ) = N / D * 2 ^ e := by
    rw [zpow_eq_div two_ne_zero e, ← hN, ← hD]
    simp only [Nat.pow_eq]
    push_cast
    field_simp
  rw [hquotient] at hless hfull hsmall ⊢
  obtain ⟨hlow, hhigh⟩ := scaled_quotient_bounds N hDpos e
  have hcanonical : Canonical (N / D) e := by
    refine ⟨scaled_lt_scaled_iff.mp (hlow.trans_lt hless), hleast, hfull.imp_left fun hle => ?_⟩
    exact Nat.lt_succ_iff.mp (scaled_lt_scaled_iff.mp (hle.trans_lt hhigh))
  obtain ⟨m', e', h', hrounds, hbits⟩ := exists_roundsTo_quotient hDpos hcanonical
  rw [hsignificand, hbits]
  exact ⟨m', e', ofFloat_floatOfMagnitude negative h' (hrounds.exponent_le h' hsmall), hrounds⟩

end Nearest

/-! ## Decimal numbers -/

/-- A number up to half the least positive double rounds to zero. -/
theorem roundsTo_zero {q : ℚ} (hq : 0 ≤ q) (hsmall : q ≤ 2 ^ (-1074 : ℤ) / 2) :
    RoundsTo q 0 (-1074) := by
  refine roundsTo_of_le ?_ ?_ fun _ => rfl
  · rwa [scaled_eq_zero_iff.mpr rfl]
  · rwa [scaled_eq_zero_iff.mpr rfl, zero_add]

theorem two_pow_le (n : ℕ) : (2 : ℚ) ^ (3 * n) ≤ 10 ^ n := by
  rw [pow_mul]
  exact pow_le_pow_left₀ (by norm_num) (by norm_num) n

/-- A decimal number with its first digit behind so many zeros is below the doubles. -/
theorem decimal_lt_least {units : ℕ} {exponent : ℤ} (hplace : digitCount units + exponent < -400) :
    (units * 10 ^ exponent : ℚ) ≤ 2 ^ (-1074 : ℤ) / 2 := by
  calc (units * 10 ^ exponent : ℚ)
      ≤ 10 ^ (digitCount units + exponent) := (decimal_lt units exponent).le
    _ ≤ 10 ^ (-(359 : ℕ) : ℤ) := zpow_le_zpow_right₀ (by norm_num) (by omega)
    _ ≤ 2 ^ (-(3 * 359 : ℕ) : ℤ) := by
        rw [zpow_neg, zpow_neg, zpow_natCast, zpow_natCast]
        exact inv_anti₀ (by positivity) (two_pow_le 359)
    _ ≤ 2 ^ (-1074 - 1 : ℤ) := zpow_le_zpow_right₀ one_le_two (by decide)
    _ = 2 ^ (-1074 : ℤ) / 2 := by rw [zpow_sub_one₀ two_ne_zero, div_eq_mul_inv]

/-- One with so many digits in front of the point is above them. -/
theorem overflow_le_decimal {units : ℕ} {exponent : ℤ} (hunits : 0 < units)
    (hplace : 400 < digitCount units + exponent) : overflow ≤ units * 10 ^ exponent := by
  have hunit := two_zpow_pos 971
  calc overflow
      ≤ scaled (Nat.pow 2 53 - 1 + 1) 971 := by
        have hsucc := scaled_succ (Nat.pow 2 53 - 1) 971
        rw [overflow, hsucc]
        exact add_le_add_right (half_le_self hunit.le) _
    _ = 2 ^ (1024 : ℕ) := by
        rw [Nat.sub_add_cancel (by decide), scaled_two_pow, ← zpow_natCast]
        rfl
    _ ≤ 2 ^ (3 * 342) := pow_le_pow_right₀ one_le_two (by decide)
    _ ≤ 10 ^ 342 := two_pow_le 342
    _ = 10 ^ (342 : ℤ) := by rw [← zpow_natCast]; rfl
    _ ≤ 10 ^ (digitCount units + exponent - 1) := zpow_le_zpow_right₀ (by norm_num) (by omega)
    _ ≤ units * 10 ^ exponent := le_decimal hunits exponent

/-- **A number in decimal notation rounds to the double that is made of it**, unless it is too
large. -/
theorem decimalFloat_roundsTo (negative : Bool) (units : ℕ) (exponent : ℤ)
    (hsmall : (units * 10 ^ exponent : ℚ) < overflow) :
    ∃ m e, ofFloat (decimalFloat negative units exponent) = .finite negative m e ∧
      RoundsTo (units * 10 ^ exponent) m e := by
  have hnonneg : (0 : ℚ) ≤ units * 10 ^ exponent := by positivity
  have hzero := ofFloat_floatOfMagnitude negative canonical_zero (by norm_num)
  have hbits : (-1074 + 1074 : ℤ).toNat * Nat.pow 2 52 + 0 = 0 := by decide
  rw [hbits] at hzero
  rw [decimalFloat]
  by_cases hnone : units = 0 ∨ (Nat.toDigits 10 units).length + exponent < -400
  · -- nothing but zeros as far as doubles reach
    rw [if_pos hnone]
    refine ⟨0, -1074, hzero, roundsTo_zero hnonneg ?_⟩
    rcases hnone with rfl | hplace
    · rw [Nat.cast_zero, zero_mul]
      exact div_nonneg (two_zpow_pos _).le zero_le_two
    · exact decimal_lt_least hplace
  · obtain ⟨hunits, -⟩ := not_or.mp hnone
    have hpos : 0 < units := Nat.pos_of_ne_zero hunits
    rw [if_neg hnone]
    by_cases hlarge : 400 < (Nat.toDigits 10 units).length + exponent
    · exact absurd (overflow_le_decimal hpos hlarge) (not_le.mpr hsmall)
    · rw [if_neg hlarge]
      by_cases hneg : exponent < 0
      · have hquotient : (units * 10 ^ exponent : ℚ) =
            units / (Nat.pow 10 (-exponent).toNat : ℕ) := by
          rw [zpow_eq_div (by norm_num), Int.toNat_of_nonpos hneg.le, pow_zero, Nat.pow_eq,
            Nat.cast_pow, Nat.cast_ofNat, mul_one_div]
        rw [if_pos hneg, hquotient]
        rw [hquotient] at hsmall
        exact nearest_roundsTo hpos (Nat.pow_pos (by decide)) negative hsmall
      · have hquotient : (units * 10 ^ exponent : ℚ) =
            (units * Nat.pow 10 exponent.toNat : ℕ) / (1 : ℕ) := by
          rw [zpow_eq_div (by norm_num), Int.toNat_of_nonpos (by omega : -exponent ≤ 0), pow_zero,
            Nat.pow_eq, Nat.cast_mul, Nat.cast_pow, Nat.cast_ofNat, Nat.cast_one, div_one, div_one]
        rw [if_neg hneg, hquotient]
        rw [hquotient] at hsmall
        exact nearest_roundsTo (Nat.mul_pos hpos (Nat.pow_pos (by decide))) Nat.one_pos negative
          hsmall

end Binary64

/-- The double that is made of a number in decimal notation is nearest to it. -/
theorem isNearest_decimalFloat (negative : Bool) (units : ℕ) (exponent : ℤ)
    (hsmall : (units * 10 ^ exponent : ℚ) < Binary64.overflow) :
    IsNearest (signed negative (units * 10 ^ exponent)) (decimalFloat negative units exponent) := by
  obtain ⟨m, e, hvalue, hrounds⟩ := Binary64.decimalFloat_roundsTo negative units exponent hsmall
  exact isNearest_of_roundsTo hvalue hrounds (by positivity)

/-! ## Texts -/

/-- A text without underscores loses none. -/
theorem withoutUnderscores?_eq_some {t : Text} (h : '_' ∉ t) :
    Text.withoutUnderscores? t = some t := by
  induction t using Text.withoutUnderscores?.induct with
  | case1 => rfl
  | case2 c d rest hdigits ih => simp at h
  | case3 c d rest hdigits => simp at h
  | case4 rest => simp at h
  | case5 c rest hfree hne ih =>
    rw [Text.withoutUnderscores?, if_neg hne, ih fun hin => h (List.mem_cons_of_mem c hin)]
    · rfl
    · exact hfree

/-- The characters of numerals are read as they stand. -/
theorem plain_of_numeral {c : Char} (h : isAsciiDigit c = true ∨ c ∈ "+-.e".toList) :
    Text.commonDigit c = c ∧ lowercaseChar c = c ∧ Text.isNumberBlank c = false ∧ c ≠ '_' := by
  rcases h with hdigit | hother
  · obtain ⟨hlow, hhigh⟩ := isAsciiDigit_iff.mp hdigit
    have hcode : Char.ofNat c.toNat = c := Char.ofNat_toNat c
    rw [← hcode]
    interval_cases c.toNat <;> decide
  · have hall : "+-.e".toList.all (fun c => decide (Text.commonDigit c = c ∧
        lowercaseChar c = c ∧ Text.isNumberBlank c = false ∧ c ≠ '_')) = true := by
      decide
    exact of_decide_eq_true (List.all_eq_true.mp hall c hother)

/-- A numeral is read as it stands. -/
theorem kept_of_numeral {t : Text} (h : ∀ c ∈ t, isAsciiDigit c = true ∨ c ∈ "+-.e".toList) :
    Text.withoutUnderscores? (t.map Text.commonDigit) = some t ∧ t.lowercase = t := by
  have hdigits : t.map Text.commonDigit = t :=
    (List.map_congr_left fun c hc => (plain_of_numeral (h c hc)).1).trans (List.map_id t)
  have hletters : t.map lowercaseChar = t :=
    (List.map_congr_left fun c hc => (plain_of_numeral (h c hc)).2.1).trans (List.map_id t)
  rw [hdigits]
  exact ⟨withoutUnderscores?_eq_some fun hin => (plain_of_numeral (h '_' hin)).2.2.2 rfl, hletters⟩

/-- What starts with a digit is no name of what is not finite. -/
theorem magnitude?_of_digits (negative : Bool) {whole : Text} (hwhole : IsDigits whole)
    (rest : Text) :
    Text.magnitude? negative (whole ++ rest) =
      (Text.decimalParts? (whole ++ rest)).map fun (digits, exponent) =>
        decimalFloat negative digits exponent := by
  obtain ⟨c, more, rfl⟩ := List.exists_cons_of_ne_nil hwhole.1
  have hc := hwhole.2 c List.mem_cons_self
  have hname : ∀ name : Text, name.head?.any isAsciiDigit = false → (c :: more) ++ rest ≠ name := by
    rintro name hfirst rfl
    rw [List.cons_append, List.head?_cons, Option.any_some, hc] at hfirst
    cases hfirst
  rw [Text.magnitude?, if_neg (not_or.mpr ⟨hname _ (by decide), hname _ (by decide)⟩),
    if_neg (hname _ (by decide))]

namespace Denotes

variable {t : Text} {negative : Bool} {units : ℕ} {exponent : ℤ}

/-- A text that denotes a number is read as its double. -/
theorem double?_eq (h : Denotes t negative units exponent) :
    t.double? = some (decimalFloat negative units exponent) := by
  have hchars := h.isDecimal.forall_mem
  cases h with
  | @intro negative whole part power exponent hwhole hpart hpower =>
    have htrim := Text.trimNumber_eq_self fun c hc => (plain_of_numeral (hchars c hc)).2.2.1
    obtain ⟨hkept, hletters⟩ := kept_of_numeral fun c hc =>
      hchars c (List.mem_append_right (if negative then ['-'] else []) hc)
    rw [Text.double?, htrim, splitSign_digits negative hwhole]
    dsimp only
    rw [hkept, Option.bind_some, hletters, magnitude?_of_digits negative hwhole,
      decimalParts?_mantissa hwhole hpart hpower]
    rfl

/-- **A text is read as the double nearest to the number that it denotes**, unless that is too
large. -/
theorem exists_double? (h : Denotes t negative units exponent)
    (hsmall : (units * 10 ^ exponent : ℚ) < Binary64.overflow) :
    ∃ y, t.double? = some y ∧ IsNearest (signed negative (units * 10 ^ exponent)) y :=
  ⟨_, h.double?_eq, isNearest_decimalFloat negative units exponent hsmall⟩

end Denotes

end CssColor
