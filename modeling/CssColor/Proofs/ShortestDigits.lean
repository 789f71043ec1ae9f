import CssColor.Proofs.NearestDouble
import CssColor.Proofs.PlainNumber

/-!
# The fewest digits round to the double

The shortest digits of a double are searched on grids that become finer, up to
seventeen digits. What is found rounds to the double, so it reads back.

- `holds_iff`: a multiple lies in the interval of a value if it rounds to it.
- `exists_onGrid?`: **a grid that is finer than the interval meets it**, which that
  of seventeen digits is.
- `shortestDigits_roundsTo`: **the number that the digits denote rounds to the
  value.**
- `floatText_of_large`: a large double is written with a power of ten.
-/

namespace CssColor

open Binary64

/-! ## The interval of a value -/

namespace RoundingInterval

variable {m n : ℕ} {e exponent : ℤ}

theorem scaled_quarter (k : ℕ) (e : ℤ) : scaled k (e - 2) = k * 2 ^ e / 4 := by
  rw [scaled, zpow_sub₀ two_ne_zero]
  ring

/-- An end of the interval, as a number of quarters of the last place. -/
theorem quarters_eq (k : ℕ) (e : ℤ) :
    ((k * Nat.pow 2 (e - 2).toNat : ℕ) / (Nat.pow 2 (2 - e).toNat : ℕ) : ℚ) = k * 2 ^ e / 4 := by
  rw [← scaled_quarter, scaled_eq_div, neg_sub]
  simp only [Nat.pow_eq]
  push_cast
  rfl

theorem value_eq (m : ℕ) (e : ℤ) :
    ((ofFinite m e).value / (ofFinite m e).den : ℚ) = scaled m e := by
  refine (quarters_eq (4 * m) e).trans ?_
  rw [scaled]
  push_cast
  ring

theorem high_eq (m : ℕ) (e : ℤ) :
    ((ofFinite m e).high / (ofFinite m e).den : ℚ) = scaled m e + 2 ^ e / 2 := by
  refine (quarters_eq (4 * m + 2) e).trans ?_
  rw [scaled]
  push_cast
  ring

theorem low_eq (hm : 0 < m) (e : ℤ) :
    ((ofFinite m e).low / (ofFinite m e).den : ℚ) = scaled m e - stepBelow m e / 2 := by
  refine (quarters_eq _ e).trans ?_
  rw [scaled, stepBelow]
  by_cases hnarrow : m = Nat.pow 2 52 ∧ -1074 < e
  · rw [decide_eq_true hnarrow, if_pos rfl, if_pos hnarrow, Nat.cast_sub (by omega),
      zpow_sub_one₀ two_ne_zero]
    push_cast
    ring
  · rw [decide_eq_false hnarrow, if_neg Bool.false_ne_true, if_neg hnarrow,
      Nat.cast_sub (by omega)]
    push_cast
    ring

theorem den_pos (m : ℕ) (e : ℤ) : (0 : ℚ) < (ofFinite m e).den :=
  Nat.cast_pos.mpr (Nat.two_pow_pos _)

/-- A multiple of a power of ten is compared with a quotient in whole numbers. -/
theorem quotient_le_iff (a : ℕ) {d : ℕ} (hd : (0 : ℚ) < d) (n : ℕ) (exponent : ℤ) :
    (a / d : ℚ) ≤ n * 10 ^ exponent ↔
      a * Nat.pow 10 (-exponent).toNat ≤ n * Nat.pow 10 exponent.toNat * d := by
  rw [zpow_eq_div (by norm_num) exponent, ← mul_div_assoc, div_le_div_iff₀ hd (by positivity)]
  simp only [Nat.pow_eq]
  exact_mod_cast Iff.rfl

theorem le_quotient_iff (a : ℕ) {d : ℕ} (hd : (0 : ℚ) < d) (n : ℕ) (exponent : ℤ) :
    (n * 10 ^ exponent : ℚ) ≤ a / d ↔
      n * Nat.pow 10 exponent.toNat * d ≤ a * Nat.pow 10 (-exponent).toNat := by
  rw [zpow_eq_div (by norm_num) exponent, ← mul_div_assoc, div_le_div_iff₀ (by positivity) hd]
  simp only [Nat.pow_eq]
  exact_mod_cast Iff.rfl

/-- **A multiple lies in the interval of a value if and only if it rounds to the value.** -/
theorem holds_iff (hm : 0 < m) :
    (ofFinite m e).holds n exponent = true ↔ RoundsTo (n * 10 ^ exponent) m e := by
  have hlow := quotient_le_iff (ofFinite m e).low (den_pos m e) n exponent
  have hhigh := le_quotient_iff (ofFinite m e).high (den_pos m e) n exponent
  have hlow' := le_quotient_iff (ofFinite m e).low (den_pos m e) n exponent
  have hhigh' := quotient_le_iff (ofFinite m e).high (den_pos m e) n exponent
  rw [low_eq hm] at hlow hlow'
  rw [high_eq] at hhigh hhigh'
  rw [holds]
  by_cases heven : m % 2 = 0
  · have hclosed : (ofFinite m e).closed = true := decide_eq_true heven
    rw [hclosed, if_pos rfl, Bool.and_eq_true, decide_eq_true_eq, decide_eq_true_eq, ← hlow,
      ← hhigh]
    exact ⟨fun h => ⟨h.1, h.2, fun _ => heven⟩, fun h => ⟨h.lower, h.upper⟩⟩
  · have hopen : (ofFinite m e).closed = false := decide_eq_false heven
    rw [hopen, if_neg Bool.false_ne_true, Bool.and_eq_true, decide_eq_true_eq, decide_eq_true_eq,
      ← not_le, ← not_le, ← hlow', ← hhigh', not_le, not_le]
    constructor
    · exact fun h => .of_between h.1 h.2
    · intro h
      exact ⟨lt_of_le_of_ne h.lower fun heq => heven (h.even (Or.inl heq.symm)),
        lt_of_le_of_ne h.upper fun heq => heven (h.even (Or.inr heq))⟩

/-! ## Searching -/

/-- What is found on a grid lies in the interval. -/
theorem onGrid?_holds {i : RoundingInterval} (h : i.onGrid? exponent = some n) :
    i.holds n exponent = true := by
  rw [onGrid?] at h
  split at h
  · rename_i hbelow habove
    split at h
    · cases h
      exact hbelow
    · cases h
      exact habove
  · rename_i hbelow _
    cases h
    exact hbelow
  · rename_i _ habove
    cases h
    exact habove
  · cases h

/-- **A grid that is finer than the interval meets it** right below the value or right above. -/
theorem exists_onGrid? (hm : 0 < m) (hfine : (10 : ℚ) ^ exponent < stepBelow m e / 2 + 2 ^ e / 2) :
    ∃ n, (ofFinite m e).onGrid? exponent = some n := by
  have hvalue := value_eq m e
  have hgrid : (0 : ℚ) < 10 ^ exponent := zpow_pos (by norm_num) _
  have hstep := stepBelow_pos m e
  have hunit := two_zpow_pos e
  rw [onGrid?]
  generalize hbelow : (ofFinite m e).value * Nat.pow 10 (-exponent).toNat /
    ((ofFinite m e).den * Nat.pow 10 exponent.toNat) = below
  have hden : 0 < (ofFinite m e).den * Nat.pow 10 exponent.toNat :=
    Nat.mul_pos (Nat.two_pow_pos _) (Nat.pow_pos (by decide))
  have hle : (below * 10 ^ exponent : ℚ) ≤ scaled m e := by
    rw [← hvalue, le_quotient_iff _ (den_pos m e), mul_assoc, mul_comm (Nat.pow 10 _), ← hbelow]
    exact Nat.div_mul_le_self _ _
  have hlt : scaled m e < ((below + 1 : ℕ) * 10 ^ exponent : ℚ) := by
    rw [← hvalue, ← not_le, le_quotient_iff _ (den_pos m e), not_le, mul_assoc,
      mul_comm (Nat.pow 10 _), ← hbelow]
    exact Nat.lt_mul_of_div_lt (Nat.lt_succ_self _) hden
  have hnext : ((below + 1 : ℕ) * 10 ^ exponent : ℚ) = below * 10 ^ exponent + 10 ^ exponent := by
    push_cast
    ring
  -- the multiple below the value, or if that is too small, the next one
  have hmeets : (ofFinite m e).holds below exponent = true ∨
      (ofFinite m e).holds (below + 1) exponent = true := by
    rw [holds_iff hm, holds_iff hm]
    by_cases hlow : scaled m e - stepBelow m e / 2 < below * 10 ^ exponent
    · exact Or.inl (.of_between hlow (by linarith))
    · exact Or.inr (.of_between (by linarith) (by linarith))
  split
  · split <;> exact ⟨_, rfl⟩
  · exact ⟨_, rfl⟩
  · exact ⟨_, rfl⟩
  · rename_i hfirst hsecond
    rw [hfirst, hsecond] at hmeets
    rcases hmeets with hnone | hnone <;> cases hnone

/-- If one of the grids meets the interval, what is found lies in it. -/
theorem search_holds (i : RoundingInterval) (place : ℤ) {k : ℕ}
    (hgrid : ∃ n, i.onGrid? (place - k) = some n) (fuel : ℕ) {count : ℕ} (hcount : count ≤ k)
    (hfuel : k < count + fuel) :
    i.holds (i.search place fuel count).digits (i.search place fuel count).exponent = true := by
  -- the search does not go past the grid of `k` digits, as there it finds something
  induction fuel generalizing count with
  | zero => omega
  | succ fuel ih =>
    rw [search]
    split
    · rename_i digits hfound
      exact onGrid?_holds hfound
    · rename_i hnone
      have hne : count ≠ k := by
        rintro rfl
        obtain ⟨n, hn⟩ := hgrid
        rw [hnone] at hn
        cases hn
      exact ih (by omega) (by omega)

end RoundingInterval

/-! ## Seventeen digits -/

/-- The place of the first digit is not too great. -/
theorem pow_leadingPlace_le {num den : ℕ} (hnum : 0 < num) (hden : 0 < den) :
    (10 : ℚ) ^ (leadingPlace num den - 1) ≤ num / den := by
  have hpos : (0 : ℚ) < den := Nat.cast_pos.mpr hden
  rw [leadingPlace]
  by_cases hwhole : den ≤ num
  · -- the digits of the whole part
    have hlead := pow_digitCount_le (Nat.div_pos hwhole hden)
    have hcount : 0 < digitCount (num / den) := Nat.length_toDigits_pos
    have hexponent : (digitCount (num / den) : ℤ) - 1 = ((digitCount (num / den) - 1 : ℕ) : ℤ) := by
      omega
    rw [if_pos hwhole, hexponent, zpow_natCast, le_div_iff₀ hpos]
    exact_mod_cast (Nat.mul_le_mul_right den hlead).trans (Nat.div_mul_le_self num den)
  · -- the zeros behind the point
    have hless := lt_pow_digitCount ((den - 1) / num)
    rw [Nat.div_lt_iff_lt_mul hnum] at hless
    have hbound : den ≤ 10 ^ digitCount ((den - 1) / num) * num := by omega
    rw [if_neg hwhole, sub_sub_cancel_left, zpow_neg, zpow_natCast, inv_le_comm₀ (by positivity)
      (div_pos (Nat.cast_pos.mpr hnum) hpos), inv_div, div_le_iff₀ (Nat.cast_pos.mpr hnum)]
    exact_mod_cast hbound

/-- **Seventeen digits are always enough.** A unit of the seventeenth digit is less than the length
of the interval, as the value has at most 53 bits. -/
theorem seventeen_digits {m : ℕ} {e place : ℤ} (h : Canonical m e)
    (hplace : (10 : ℚ) ^ (place - 1) ≤ scaled m e) :
    (10 : ℚ) ^ (place - 17) < stepBelow m e / 2 + 2 ^ e / 2 := by
  have hunit := two_zpow_pos e
  have hsplit : (10 : ℚ) ^ (place - 17) = 10 ^ (place - 1) / 10 ^ 16 := by
    rw [← zpow_natCast, ← zpow_sub₀ (by norm_num)]
    congr 1
    push_cast
    ring
  rw [hsplit, div_lt_iff₀ (by norm_num)]
  refine hplace.trans_lt ?_
  -- below a power of two the interval is shorter, but there the significand has one bit
  rw [scaled, stepBelow]
  by_cases hnarrow : m = Nat.pow 2 52 ∧ -1074 < e
  · rw [if_pos hnarrow, hnarrow.1, zpow_sub_one₀ two_ne_zero]
    simp only [Nat.pow_eq]
    push_cast
    nlinarith
  · have hm : (m : ℚ) < 2 ^ 53 := by exact_mod_cast h.lt
    rw [if_neg hnarrow]
    nlinarith

section Digits

variable {m : ℕ} {e : ℤ}

/-- Zeros at the end are counted by the place of the point. -/
theorem trimmed_value (d : Decimal) :
    (digitsValue d.trimmed.1 * 10 ^ (d.trimmed.2 - d.trimmed.1.length) : ℚ) =
      d.digits * 10 ^ d.exponent := by
  obtain ⟨count, heq⟩ := exists_endZeros (Nat.toDigits 10 d.digits)
  have hkept : d.trimmed.1 = withoutEndZeros (Nat.toDigits 10 d.digits) := rfl
  have hplace : d.trimmed.2 = d.exponent + (Nat.toDigits 10 d.digits).length := rfl
  rw [hkept, hplace]
  generalize withoutEndZeros (Nat.toDigits 10 d.digits) = kept at heq
  have hdigits : (d.digits : ℚ) = digitsValue kept * 10 ^ count := by
    have hvalue := digitsValue_toDigits d.digits
    rw [heq, digitsValue_append, digitsValue_replicate, List.length_replicate, add_zero] at hvalue
    exact_mod_cast hvalue.symm
  have hexponent : d.exponent + (Nat.toDigits 10 d.digits).length - kept.length =
      count + d.exponent := by
    rw [heq, List.length_append, List.length_replicate]
    push_cast
    ring
  rw [hexponent, hdigits, zpow_add₀ (by norm_num), zpow_natCast, mul_assoc]

/-- The digits of a positive number are not all cut. -/
theorem trimmed_isDigits {d : Decimal} (h : 0 < d.digits) : IsDigits d.trimmed.1 := by
  refine ⟨fun hnil => ?_, isAsciiDigit_withoutEndZeros (isDigits_toDigits d.digits).2⟩
  obtain ⟨count, heq⟩ := exists_endZeros (Nat.toDigits 10 d.digits)
  have hkept : withoutEndZeros (Nat.toDigits 10 d.digits) = [] := hnil
  have hvalue := digitsValue_toDigits d.digits
  rw [heq, hkept, List.nil_append, digitsValue_replicate] at hvalue
  omega

/-- The point stands behind all digits of the whole part. -/
theorem lt_pow_place (d : Decimal) : (d.digits * 10 ^ d.exponent : ℚ) < 10 ^ d.trimmed.2 := by
  have hplace : d.trimmed.2 = digitCount d.digits + d.exponent := add_comm _ _
  rw [hplace]
  exact decimal_lt d.digits d.exponent

/-- What is searched for the digits of a value. -/
def shortestDecimal (m : ℕ) (e : ℤ) : Decimal :=
  let i := RoundingInterval.ofFinite m e
  i.search (leadingPlace i.value i.den) 17 1

theorem shortestDecimal_roundsTo (h : Canonical m e) (hm : 0 < m) :
    RoundsTo ((shortestDecimal m e).digits * 10 ^ (shortestDecimal m e).exponent) m e := by
  have hvalue : 0 < (RoundingInterval.ofFinite m e).value :=
    Nat.mul_pos (by omega) (Nat.two_pow_pos _)
  have hden : 0 < (RoundingInterval.ofFinite m e).den := Nat.two_pow_pos _
  have hplace := pow_leadingPlace_le hvalue hden
  rw [RoundingInterval.value_eq] at hplace
  have hgrid := RoundingInterval.exists_onGrid? hm (seventeen_digits h hplace)
  exact (RoundingInterval.holds_iff hm).mp
    (RoundingInterval.search_holds _ _ (k := 17) hgrid 17 (by decide) (by decide))

/-- **The number that the shortest digits denote rounds to the value.** -/
theorem shortestDigits_roundsTo (h : Canonical m e) (hm : 0 < m) :
    RoundsTo (digitsValue (shortestDigits m e).1 *
      10 ^ ((shortestDigits m e).2 - (shortestDigits m e).1.length)) m e := by
  have hvalue : shortestDigits m e = (shortestDecimal m e).trimmed := rfl
  rw [hvalue, trimmed_value]
  exact shortestDecimal_roundsTo h hm

/-- A number that rounds to a value is at least half as large. -/
theorem half_scaled_le {q : ℚ} (h : RoundsTo q m e) (hm : 0 < m) : scaled m e / 2 ≤ q := by
  have hunit := two_zpow_pos e
  have hstep : stepBelow m e ≤ scaled m e := by
    have hone : 2 ^ e ≤ scaled m e := by
      rw [scaled]
      exact le_mul_of_one_le_left hunit.le (by exact_mod_cast hm)
    rw [stepBelow]
    split
    · rw [zpow_sub_one₀ two_ne_zero]
      linarith
    · exact hone
  have hlower := h.lower
  linarith

/-- Behind the digits of a large number the point is not written. -/
theorem place_of_large (h : Canonical m e) (hm : 0 < m) (hlarge : 10 ^ 21 ≤ scaled m e) :
    16 < (shortestDigits m e).2 := by
  have hhalf := half_scaled_le (shortestDecimal_roundsTo h hm) hm
  have hplace : ((shortestDecimal m e).digits * 10 ^ (shortestDecimal m e).exponent : ℚ) <
      10 ^ (shortestDigits m e).2 := lt_pow_place _
  by_contra hsmall
  have hpow : (10 : ℚ) ^ (shortestDigits m e).2 ≤ 10 ^ (16 : ℤ) :=
    zpow_le_zpow_right₀ (by norm_num) (by omega)
  norm_num at hpow
  linarith

/-- The shortest digits of a positive value are digits. -/
theorem isDigits_shortestDigits (h : Canonical m e) (hm : 0 < m) :
    IsDigits (shortestDigits m e).1 := by
  have hhalf := half_scaled_le (shortestDecimal_roundsTo h hm) hm
  have hpos : 0 < scaled m e := (scaled_nonneg m e).lt_of_ne' (mt scaled_eq_zero_iff.mp hm.ne')
  refine trimmed_isDigits (d := shortestDecimal m e) (Nat.pos_of_ne_zero fun hzero => ?_)
  rw [hzero, Nat.cast_zero, zero_mul] at hhalf
  linarith

end Digits

/-! ## Large doubles -/

/-- Digits with a power of ten behind them. -/
theorem exists_power (layout : FloatLayout) (digits : Text) (place : ℤ) :
    ∃ power, DenotesPower power (place - 1) ∧ 'e' ∈ power ∧
      layout.exponentText digits place =
        digits.take 1 ++ (fractionText (digits.drop 1) ++ power) := by
  have hfraction : (if digits.length ≤ 1 then [] else '.' :: digits.drop 1) =
      fractionText (digits.drop 1) := by
    rw [fractionText]
    exact if_congr List.drop_eq_nil_iff.symm rfl rfl
  have hdigits : IsDigits (List.replicate (layout.exponentDigits -
      (natText (place - 1).natAbs).length) '0' ++ natText (place - 1).natAbs) :=
    (isDigits_toDigits _).append_left (isAsciiDigit_zeros _)
  have hvalue : digitsValue (List.replicate (layout.exponentDigits -
      (natText (place - 1).natAbs).length) '0' ++ natText (place - 1).natAbs) =
        (place - 1).natAbs := by
    rw [digitsValue_append, digitsValue_replicate, Nat.zero_mul, Nat.zero_add]
    exact digitsValue_toDigits _
  have hpower := DenotesPower.some (decide (place - 1 < 0)) hdigits
  have hexponent : (if decide (place - 1 < 0) then -((place - 1).natAbs : ℤ)
      else (place - 1).natAbs) = place - 1 := by
    by_cases hneg : place - 1 < 0
    · rw [if_pos (decide_eq_true hneg)]
      omega
    · rw [decide_eq_false hneg, if_neg Bool.false_ne_true]
      omega
  rw [hvalue, hexponent] at hpower
  refine ⟨_, hpower, List.mem_cons_self, ?_⟩
  rw [FloatLayout.exponentText, hfraction]
  simp only [decide_eq_true_eq, List.append_assoc, List.cons_append, List.nil_append]

section Large

variable {x : Float} {negative : Bool} {m : ℕ} {e : ℤ}

/-- **A large double is written with a power of ten**, and what is written rounds to the double. -/
theorem floatText_of_large (hx : ofFloat x = .finite negative m e) (hlarge : 10 ^ 21 ≤ |exact x|) :
    ∃ units exponent, Denotes (floatText x) negative units exponent ∧ 'e' ∈ floatText x ∧
      RoundsTo (units * 10 ^ exponent) m e := by
  have h := (canonical_of_ofFloat hx).1
  rw [exact, hx, abs_toRat] at hlarge
  have hm : 0 < m := by
    rcases Nat.eq_zero_or_pos m with rfl | hm
    · rw [scaled_eq_zero_iff.mpr rfl] at hlarge
      norm_num at hlarge
    · exact hm
  have hplace := place_of_large h hm hlarge
  have hdigits := isDigits_shortestDigits h hm
  have hrounds := shortestDigits_roundsTo h hm
  have htext : floatText x = (if negative then ['-'] else []) ++
      literalLayout.exponentText (shortestDigits m e).1 (shortestDigits m e).2 := by
    have hmost : ¬ (literalLayout.leastPlace ≤ (shortestDigits m e).2 ∧
        (shortestDigits m e).2 ≤ literalLayout.mostPlace) :=
      fun hin => absurd hin.2 (not_le.mpr hplace)
    rw [floatText, hx, FloatLayout.text, if_neg hm.ne']
    dsimp only
    rw [if_neg hmost]
  obtain ⟨power, hpower, he, heq⟩ :=
    exists_power literalLayout (shortestDigits m e).1 (shortestDigits m e).2
  rw [htext, heq]
  generalize shortestDigits m e = shortest at hdigits hrounds hpower
  have hpart : ∀ c ∈ shortest.1.drop 1, isAsciiDigit c = true :=
    fun c hc => hdigits.2 c (List.mem_of_mem_drop hc)
  refine ⟨_, _, .intro negative (hdigits.take (by decide)) hpart hpower, ?_, ?_⟩
  · simp only [List.mem_append]
    exact Or.inr (Or.inr (Or.inr he))
  · have hlength : 0 < shortest.1.length := List.length_pos_iff.mpr hdigits.1
    have hexponent : shortest.2 - 1 - ((shortest.1.drop 1).length : ℤ) =
        shortest.2 - shortest.1.length := by
      rw [List.length_drop]
      omega
    rwa [List.take_append_drop, hexponent]

end Large

end CssColor
