import CssColor.Proofs.PlainNumber

/-!
# Rounding to decimal places

A double is rounded to decimal places from its exact value, with a tie going
away from zero, and written with all the places that were asked for.

- `IsRounding`: the multiple of a decimal place that is nearest to a number;
  `IsRounding.unique`: there is one at most.
- `IsRounding.of_le_half`: a multiple is the nearest one if it is no farther away
  than half a place.
- `isRounding_fixedUnits`: the units of a place are counted correctly.
- `toFixed_isRounding`: **the text of a finite double is that of the nearest
  multiple**, it has as many places as were asked for, and its sign is that of
  the double.
-/

namespace CssColor

/-! ## The nearest multiple of a decimal place -/

/-- The multiple of `10 ^ -places` that is nearest to a number, a tie going away from zero. -/
structure IsRounding (places : ℕ) (q r : ℚ) : Prop where
  multiple : ∃ n : ℤ, r = n / 10 ^ places
  nearest : ∀ n : ℤ, |r - q| ≤ |n / 10 ^ places - q|
  away : ∀ n : ℤ, |n / 10 ^ places - q| = |r - q| → |(n / 10 ^ places : ℚ)| ≤ |r|

namespace IsRounding

variable {places : ℕ} {q r r' : ℚ}

theorem unit_pos (places : ℕ) : (0 : ℚ) < 10 ^ places :=
  pow_pos (by norm_num) places

/-- Multiples are at least a unit apart. -/
theorem unit_le_abs_sub {k n : ℤ} (h : n ≠ k) :
    1 / 10 ^ places ≤ |(n / 10 ^ places - k / 10 ^ places : ℚ)| := by
  have hpos := unit_pos places
  have hone : (1 : ℚ) ≤ |(n - k : ℚ)| := by
    exact_mod_cast Int.one_le_abs (sub_ne_zero.mpr h)
  rw [← sub_div, abs_div, abs_of_pos hpos]
  exact div_le_div_of_nonneg_right hone hpos.le

/-- **A multiple within half a unit is the nearest**, if a tie has it farther away from zero. -/
theorem of_le_half {k : ℤ} (hhalf : |k / 10 ^ places - q| ≤ 1 / (2 * 10 ^ places))
    (haway : |k / 10 ^ places - q| = 1 / (2 * 10 ^ places) → q * q ≤ q * (k / 10 ^ places)) :
    IsRounding places q (k / 10 ^ places) := by
  have hunit : (1 / 10 ^ places : ℚ) = 1 / (2 * 10 ^ places) + 1 / (2 * 10 ^ places) := by
    field_simp
    norm_num
  -- another multiple is on the other side of the number, half a unit away or farther
  have hother : ∀ n : ℤ, n ≠ k → 1 / (2 * 10 ^ places) ≤ |(n / 10 ^ places - q : ℚ)| := by
    intro n hn
    have hapart : 1 / 10 ^ places ≤ |(n / 10 ^ places - k / 10 ^ places : ℚ)| := unit_le_abs_sub hn
    have htriangle := abs_sub_le (n / 10 ^ places : ℚ) q (k / 10 ^ places)
    rw [abs_sub_comm q] at htriangle
    linarith
  refine ⟨⟨k, rfl⟩, fun n => ?_, fun n htie => ?_⟩
  · by_cases hn : n = k
    · rw [hn]
    · exact hhalf.trans (hother n hn)
  · by_cases hn : n = k
    · rw [hn]
    · have hfar := haway (le_antisymm hhalf (htie ▸ hother n hn))
      rcases abs_eq_abs.mp htie with heq | hopposite
      · have hsame : (n / 10 ^ places : ℚ) = k / 10 ^ places := by linarith
        rw [hsame]
      · -- the other multiple mirrors this one, and lies nearer to zero
        have hmirror : (n / 10 ^ places : ℚ) = 2 * q - k / 10 ^ places := by linarith
        rw [hmirror]
        refine sq_le_sq.mp ?_
        linarith

/-- A multiple that is nearer than half a unit is the nearest. -/
theorem of_lt_half {k : ℤ} (hhalf : |k / 10 ^ places - q| < 1 / (2 * 10 ^ places)) :
    IsRounding places q (k / 10 ^ places) :=
  of_le_half hhalf.le fun heq => absurd heq hhalf.ne

/-- The nearest multiple is half a unit away at most. -/
theorem abs_sub_le_half (h : IsRounding places q r) : |r - q| ≤ 1 / (2 * 10 ^ places) := by
  have hpos := unit_pos places
  refine (h.nearest (round (q * 10 ^ places))).trans ?_
  have hround := abs_sub_round (q * 10 ^ places)
  have hscale : (round (q * 10 ^ places) / 10 ^ places - q : ℚ) =
      (round (q * 10 ^ places) - q * 10 ^ places) / 10 ^ places := by
    field_simp
  rw [hscale, abs_div, abs_of_pos hpos, abs_sub_comm, div_le_iff₀ hpos]
  refine hround.trans_eq ?_
  field_simp

/-- A rounded number is less than one away. -/
theorem abs_sub_lt_one (h : IsRounding places q r) : |r - q| < 1 := by
  refine h.abs_sub_le_half.trans_lt ?_
  have hone : (1 : ℚ) ≤ 10 ^ places := one_le_pow₀ (by norm_num)
  rw [div_lt_one (by positivity)]
  linarith

/-- **There is one nearest multiple.** -/
theorem unique (h : IsRounding places q r) (h' : IsRounding places q r') : r = r' := by
  obtain ⟨n, rfl⟩ := h.multiple
  obtain ⟨n', rfl⟩ := h'.multiple
  have hdistance := le_antisymm (h.nearest n') (h'.nearest n)
  have hmagnitude := le_antisymm (h'.away n hdistance) (h.away n' hdistance.symm)
  rcases abs_eq_abs.mp hdistance with heq | hopposite
  · linarith
  · -- on either side of the number and of zero: the number is zero itself
    rcases abs_eq_abs.mp hmagnitude with heq | hnegative
    · exact heq
    · have hzero : q = 0 := by linarith
      have hnone := h.nearest 0
      rw [hzero, sub_zero, sub_zero, Int.cast_zero, zero_div, abs_zero] at hnone
      have hfirst := abs_nonpos_iff.mp hnone
      linarith

/-- What holds of a number holds of its negative. -/
theorem signed (negative : Bool) (h : IsRounding places q r) :
    IsRounding places (signed negative q) (CssColor.signed negative r) := by
  cases negative with
  | false => exact h
  | true =>
    have hflip : ∀ n : ℤ, |(n / 10 ^ places - -q : ℚ)| = |((-n : ℤ) / 10 ^ places - q : ℚ)| := by
      intro n
      rw [← abs_neg]
      congr 1
      push_cast
      ring
    have hself : |-r - -q| = |r - q| := by rw [neg_sub_neg, abs_sub_comm]
    show IsRounding places (-q) (-r)
    refine ⟨?_, fun n => ?_, fun n htie => ?_⟩
    · obtain ⟨n, rfl⟩ := h.multiple
      exact ⟨-n, by rw [Int.cast_neg, neg_div]⟩
    · rw [hself, hflip]
      exact h.nearest (-n)
    · rw [hself, hflip] at htie
      have hle := h.away (-n) htie
      rwa [Int.cast_neg, neg_div, abs_neg, ← abs_neg r] at hle

end IsRounding

/-! ## Units of a place -/

/-- A quotient is rounded up from its half, and down below it. -/
theorem roundQuotientAway_bounds (num : ℕ) {den : ℕ} (hden : 0 < den) :
    (roundQuotientAway num den : ℚ) ≤ num / den + 1 / 2 ∧
      (num / den : ℚ) < roundQuotientAway num den + 1 / 2 := by
  have hpos : (0 : ℚ) < den := Nat.cast_pos.mpr hden
  have hle : (2 * num + den) / (2 * den) * (2 * den) ≤ 2 * num + den := Nat.div_mul_le_self _ _
  have hlt : 2 * num + den < ((2 * num + den) / (2 * den) + 1) * (2 * den) :=
    Nat.lt_mul_of_div_lt (Nat.lt_succ_self _) (by omega)
  have hle' : (roundQuotientAway num den * (2 * den) : ℚ) ≤ 2 * num + den := by exact_mod_cast hle
  have hlt' : (2 * num + den : ℚ) < (roundQuotientAway num den + 1) * (2 * den) := by
    exact_mod_cast hlt
  constructor
  · rw [div_add_div _ _ hpos.ne' two_ne_zero, le_div_iff₀ (by positivity)]
    linarith
  · rw [div_lt_iff₀ hpos]
    linarith

/-- **The units of the last place are counted correctly.** -/
theorem isRounding_fixedUnits (m : ℕ) (e : ℤ) (places : ℕ) :
    IsRounding places (Binary64.scaled m e) (fixedUnits m e places / 10 ^ places) := by
  have hpos := IsRounding.unit_pos places
  have hden : 0 < Nat.pow 2 (-e).toNat := Nat.two_pow_pos _
  obtain ⟨hle, hlt⟩ := roundQuotientAway_bounds (m * Nat.pow 2 e.toNat * Nat.pow 10 places) hden
  have hexact : ((m * Nat.pow 2 e.toNat * Nat.pow 10 places : ℕ) / (Nat.pow 2 (-e).toNat : ℕ) : ℚ)
      = Binary64.scaled m e * 10 ^ places := by
    rw [Binary64.scaled_eq_div]
    simp only [Nat.pow_eq]
    push_cast
    ring
  rw [hexact, ← fixedUnits] at hle hlt
  have hdistance : (fixedUnits m e places / 10 ^ places - Binary64.scaled m e : ℚ) =
      (fixedUnits m e places - Binary64.scaled m e * 10 ^ places) / 10 ^ places := by
    field_simp
  have hhalf : (1 / (2 * 10 ^ places) : ℚ) = 1 / 2 / 10 ^ places := by rw [div_div]
  have hround : IsRounding places (Binary64.scaled m e)
      (((fixedUnits m e places : ℕ) : ℤ) / 10 ^ places) := by
    refine IsRounding.of_le_half ?_ fun htie => ?_
    · rw [Int.cast_natCast, hdistance, hhalf, abs_div, abs_of_pos hpos,
        div_le_div_iff_of_pos_right hpos, abs_le]
      constructor <;> linarith
    · -- a tie is rounded up
      rw [Int.cast_natCast, hdistance, hhalf, abs_div, abs_of_pos hpos,
        div_left_inj' hpos.ne'] at htie
      rw [Int.cast_natCast]
      refine mul_le_mul_of_nonneg_left ?_ (Binary64.scaled_nonneg m e)
      rw [le_div_iff₀ hpos]
      rcases (abs_eq (by norm_num)).mp htie with hup | hdown
      · linarith
      · linarith
  rwa [Int.cast_natCast] at hround

/-! ## Texts with decimal places -/

section Texts

variable {x : Float} {negative : Bool} {m : ℕ} {e : ℤ}

/-- A finite double below the limit is written as units of the last place. -/
theorem toFixed_eq_ofUnits (hx : Binary64.ofFloat x = .finite negative m e)
    (hsmall : |exact x| < 10 ^ 21) (places : ℕ) :
    toFixed x places =
      .ok (PlainNumber.ofUnits negative (fixedUnits m e places) places).text := by
  have hlimit := (abs_lt_fixedLimit_iff ⟨negative, m, e, hx⟩).mpr hsmall
  rw [toFixed, hx]
  dsimp only
  rw [if_pos hlimit, if_pos (digitCount_fixedUnits_le m e places), PlainNumber.text_ofUnits]

/-- The value of the units is the nearest multiple of the last place. -/
theorem isRounding_ofUnits (hx : Binary64.ofFloat x = .finite negative m e) (places : ℕ) :
    IsRounding places (exact x)
      (PlainNumber.ofUnits negative (fixedUnits m e places) places).value := by
  have hround := (isRounding_fixedUnits m e places).signed negative
  rwa [PlainNumber.value_ofUnits, exact, hx]

/-- **A finite double below the limit is rounded exactly**: its text is a number with as many
places as were asked for, it denotes the multiple of the last place that is nearest to the double, a
tie going away from zero, and it has a sign if and only if the double has. -/
theorem toFixed_isRounding (hx : (Binary64.ofFloat x).IsFinite) (hsmall : |exact x| < 10 ^ 21)
    (places : ℕ) :
    ∃ n : PlainNumber, toFixed x places = .ok n.text ∧ n.part.length = places ∧
      n.negative = x.toBits.toNat.testBit 63 ∧ n.text.decimalValue? = some n.value ∧
      IsRounding places (exact x) n.value := by
  obtain ⟨negative, m, e, hvalue⟩ := hx
  exact ⟨_, toFixed_eq_ofUnits hvalue hsmall places, PlainNumber.length_part_ofUnits ..,
    (Binary64.testBit_of_ofFloat hvalue).symm, PlainNumber.decimalValue?_text _,
    isRounding_ofUnits hvalue places⟩

/-- A tie is carried into a new digit. -/
theorem toFixed_isRounding_carry :
    ∃ n : PlainNumber, toFixed 999.5 0 = .ok n.text ∧ n.part.length = 0 ∧
      n.negative = (999.5 : Float).toBits.toNat.testBit 63 ∧
      n.text.decimalValue? = some n.value ∧ IsRounding 0 (exact 999.5) n.value := by
  have hvalue : Binary64.ofFloat 999.5 = .finite false 8791694975696896 (-43) := by decide +kernel
  refine toFixed_isRounding ⟨_, _, _, hvalue⟩ ?_ 0
  rw [exact, hvalue, Binary64.abs_toRat, Binary64.scaled]
  norm_num

end Texts

end CssColor
