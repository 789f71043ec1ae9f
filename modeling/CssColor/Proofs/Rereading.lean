import CssColor.Proofs.CanonicalNumber
import CssColor.Proofs.DoubleReading

/-!
# Written numbers are stable under reading back

A double is rounded to decimal places, the text is read as the nearest double,
and that one is rounded again. Both roundings are to the nearest, so the second
double is no farther from the rounded number than the first. Only if it is as
far as half a unit of the last place could it be rounded to another number, and
this happens for no two doubles.

- `IsRounding.of_isNearest`: **the nearest double to a rounded number is rounded
  to that number**.
- `abs_exact_sub_ne_unit`: two doubles do not differ by one unit of a place behind
  the point, for lack of factors of five.
- `exists_scaled`, `exists_whole`: a whole number of 53 bits is a double itself.
- `exists_plainNumber`: the number that is written for a double below the limit.
- `formatNumber_reread`: **what is written, read and written again is the same.**
-/

namespace CssColor

open Binary64

section Doubles

variable {x y : Float} {places : ℕ} {d : ℚ}

/-! ## Half a unit -/

/-- A finite double is a multiple of the least positive one. -/
theorem exists_dyadic (hx : (ofFloat x).IsFinite) : ∃ n : ℤ, exact x * 2 ^ 1074 = n := by
  obtain ⟨negative, m, e, hx⟩ := hx
  have hleast := (canonical_of_ofFloat hx).1.least
  have hscale : scaled m e * 2 ^ 1074 = (m * 2 ^ (e - -1074).toNat : ℕ) := by
    rw [scaled_of_le m hleast, scaled, mul_assoc, ← zpow_natCast, ← zpow_add₀ two_ne_zero]
    norm_num
  rw [exact_eq hx]
  cases negative with
  | false => exact ⟨_, hscale.trans (Int.cast_natCast _).symm⟩
  | true =>
    refine ⟨-(m * 2 ^ (e - -1074).toNat : ℕ), ?_⟩
    rw [signed, if_pos rfl, neg_mul, hscale, Int.cast_neg, Int.cast_natCast]

/-- **Two doubles do not differ by a unit of a place behind the point**: such a unit has a factor of
five in its denominator. -/
theorem abs_exact_sub_ne_unit (hx : (ofFloat x).IsFinite) (hy : (ofFloat y).IsFinite)
    (hplaces : 0 < places) : |exact x - exact y| ≠ 1 / 10 ^ places := by
  intro hunit
  obtain ⟨a, ha⟩ := exists_dyadic hx
  obtain ⟨b, hb⟩ := exists_dyadic hy
  generalize 1074 = bits at ha hb
  have hproduct : (2 ^ bits : ℤ) = |a - b| * 10 ^ places := by
    have hpos := IsRounding.unit_pos places
    have hscaled : |(a - b : ℚ)| = 1 / 10 ^ places * 2 ^ bits := by
      rw [← ha, ← hb, ← sub_mul, abs_mul, hunit, abs_of_pos (by positivity)]
    have heq : |(a - b : ℚ)| * 10 ^ places = 2 ^ bits := by
      rw [hscaled]
      field_simp
    exact_mod_cast heq.symm
  -- five divides the unit's side, and no power of two
  have hfive : (5 : ℤ) ∣ 2 ^ bits := by
    rw [hproduct]
    exact Dvd.dvd.mul_left ((by norm_num : (5 : ℤ) ∣ 10).trans (dvd_pow_self 10 hplaces.ne')) _
  have htwo := Int.Prime.dvd_pow' Nat.prime_five hfive
  norm_num at htwo

/-- A double that is halfway between whole numbers has few bits. -/
theorem abs_exact_lt_of_half (hx : (ofFloat x).IsFinite) {k : ℤ} (hhalf : |k - exact x| = 1 / 2) :
    |exact x| < 2 ^ 52 := by
  obtain ⟨negative, m, e, hx⟩ := hx
  have hcanonical := (canonical_of_ofFloat hx).1
  rw [exact, hx, abs_toRat]
  rcases lt_or_ge e 0 with hneg | hwhole
  · have hm : (m : ℚ) < 2 ^ 53 := by exact_mod_cast hcanonical.lt
    calc scaled m e ≤ scaled m (-1) :=
          mul_le_mul_of_nonneg_left (zpow_le_zpow_right₀ one_le_two (by omega)) (Nat.cast_nonneg m)
      _ < 2 ^ 52 := by
          rw [scaled, zpow_neg_one]
          linarith
  · -- a whole number is not halfway between others
    exfalso
    have hvalue : ∃ n : ℤ, exact x = n := by
      rw [exact_eq hx, scaled, ← Int.toNat_of_nonneg hwhole, zpow_natCast]
      cases negative with
      | false => exact ⟨m * 2 ^ e.toNat, by push_cast; rfl⟩
      | true => exact ⟨-(m * 2 ^ e.toNat), by push_cast; rfl⟩
    obtain ⟨n, hn⟩ := hvalue
    rw [hn, eq_div_iff two_ne_zero] at hhalf
    have hodd : |k - n| * 2 = 1 := by exact_mod_cast hhalf
    omega

/-- A whole number of 53 bits times a power of two is a double, unless that is too large or too
small. -/
theorem exists_scaled {k e : ℤ} (hk : k.natAbs < Nat.pow 2 53) (hleast : -1074 ≤ e)
    (hlarge : e ≤ 971) : ∃ z, (ofFloat z).IsFinite ∧ exact z = k * 2 ^ e := by
  obtain ⟨m, e', h, he, hvalue⟩ := exists_canonical hk hleast
  obtain ⟨z, hz⟩ := exists_float (decide (k < 0)) h (by omega)
  refine ⟨z, ⟨_, _, _, hz⟩, ?_⟩
  rw [exact_eq hz, hvalue, scaled, Nat.cast_natAbs]
  by_cases hneg : k < 0
  · rw [decide_eq_true hneg, signed, if_pos rfl, abs_of_neg hneg, Int.cast_neg, neg_mul, neg_neg]
  · rw [decide_eq_false hneg, signed, if_neg Bool.false_ne_true, abs_of_nonneg (not_lt.mp hneg)]

/-- A whole number of 53 bits is a double. -/
theorem exists_whole {k : ℤ} (hk : k.natAbs < Nat.pow 2 53) :
    ∃ z, (ofFloat z).IsFinite ∧ exact z = k := by
  obtain ⟨z, hz, hvalue⟩ := exists_scaled hk (e := 0) (by decide) (by decide)
  rw [zpow_zero, mul_one] at hvalue
  exact ⟨z, hz, hvalue⟩

/-- A whole number next to a double that is halfway to it is a double itself. -/
theorem exact_eq_of_half (hx : (ofFloat x).IsFinite) {k : ℤ} (hhalf : |k - exact x| = 1 / 2)
    (hy : IsNearest k y) : exact y = k := by
  have hsmall := abs_exact_lt_of_half hx hhalf
  have htriangle := abs_sub_abs_le_abs_sub (k : ℚ) (exact x)
  have hbound : |(k : ℚ)| < 2 ^ 53 := by linarith
  have hk : k.natAbs < Nat.pow 2 53 := by
    have hcast : |k| < 2 ^ 53 := by exact_mod_cast hbound
    rw [Int.abs_eq_natAbs] at hcast
    exact_mod_cast hcast
  obtain ⟨z, hz, hvalue⟩ := exists_whole hk
  have hnone := hy.nearest z hz
  rw [hvalue, sub_self, abs_zero, abs_nonpos_iff] at hnone
  exact sub_eq_zero.mp hnone

/-- **The nearest double to a rounded number is rounded to that number.** It is as near to it as the
double that was rounded, and if both are half a unit away, they are the same. -/
theorem IsRounding.of_isNearest (hx : (ofFloat x).IsFinite) (hd : IsRounding places (exact x) d)
    (hy : IsNearest d y) : IsRounding places (exact y) d := by
  have hcloser := hy.nearest x hx
  have hhalf := hd.abs_sub_le_half
  rw [abs_sub_comm d] at hhalf
  obtain ⟨k, rfl⟩ := hd.multiple
  rcases (hcloser.trans hhalf).lt_or_eq with hless | htie
  · rw [abs_sub_comm] at hless
    exact IsRounding.of_lt_half hless
  · have hboth : |exact x - k / 10 ^ places| = 1 / (2 * 10 ^ places) :=
      le_antisymm hhalf (htie ▸ hcloser)
    rcases abs_eq_abs.mp (htie.trans hboth.symm) with hsame | hopposite
    · have heq : exact y = exact x := sub_left_injective hsame
      rwa [heq]
    · -- on both sides of the rounded number, one unit apart
      exfalso
      rcases Nat.eq_zero_or_pos places with rfl | hplaces
      · -- without places the rounded number is a double itself
        rw [pow_zero, div_one, mul_one] at hboth htie
        rw [pow_zero, div_one] at hy
        have hexact := exact_eq_of_half hx ((abs_sub_comm _ _).trans hboth) hy
        rw [hexact, sub_self, abs_zero] at htie
        norm_num at htie
      · refine abs_exact_sub_ne_unit hx hy.isFinite hplaces ?_
        have hdouble : exact x - exact y = 2 * (exact x - k / 10 ^ places) := by linarith
        rw [hdouble, abs_mul, hboth, abs_two]
        field_simp

/-! ## Reading back -/

/-- No double lies right below the limit of fixed places. -/
theorem abs_exact_le_of_lt (hx : (ofFloat x).IsFinite) (hsmall : |exact x| < 10 ^ 21) :
    |exact x| ≤ 10 ^ 21 - 2 ^ 17 := by
  obtain ⟨negative, m, e, hx⟩ := hx
  have hcanonical := (canonical_of_ofFloat hx).1
  have hlast : Canonical 7629394531249999 17 := ⟨by decide, by decide, Or.inl (by decide)⟩
  have hvalue : scaled 7629394531249999 17 = 10 ^ 21 - 2 ^ 17 := by norm_num [scaled]
  rw [exact, hx, abs_toRat] at hsmall ⊢
  rcases le_or_succ_le hlast hcanonical.lt hcanonical.least with hle | hge
  · exact hle.trans_eq hvalue
  · exact absurd (scaled_limit.symm.trans_le hge) (not_le.mpr hsmall)

/-- The nearest double to a rounded number is below the limit of fixed places. -/
theorem abs_exact_lt_of_isNearest (hx : (ofFloat x).IsFinite) (hsmall : |exact x| < 10 ^ 21)
    (hd : IsRounding places (exact x) d) (hy : IsNearest d y) : |exact y| < 10 ^ 21 := by
  have hbelow := abs_exact_le_of_lt hx hsmall
  have hcloser := hy.nearest x hx
  have hone := hd.abs_sub_lt_one
  rw [abs_sub_comm] at hone
  have hdistance := abs_sub_le (exact y) d (exact x)
  rw [abs_sub_comm d] at hdistance
  have htriangle := abs_sub_abs_le_abs_sub (exact y) (exact x)
  norm_num at hbelow ⊢
  linarith

/-- A finite double but zero is determined by its number. -/
theorem ofFloat_eq_of_exact_eq (hx : (ofFloat x).IsFinite) (hy : (ofFloat y).IsFinite)
    (heq : exact x = exact y) (hne : exact x ≠ 0) : ofFloat x = ofFloat y := by
  obtain ⟨negative, m, e, hx⟩ := hx
  obtain ⟨negative', m', e', hy⟩ := hy
  have hmagnitude := congrArg abs heq
  rw [exact, exact, hx, hy, abs_toRat, abs_toRat] at hmagnitude
  obtain ⟨rfl, rfl⟩ := scaled_inj (canonical_of_ofFloat hx).1 (canonical_of_ofFloat hy).1 hmagnitude
  rw [exact_eq hx] at hne heq
  rw [exact_eq hy, signed_eq_signed_iff] at heq
  rcases heq with rfl | hzero
  · rw [hx, hy]
  · rw [hzero, signed_zero] at hne
    exact absurd rfl hne

theorem limit_lt_overflow : (10 : ℚ) ^ 21 < overflow := by
  have hlimit := (canonical_of_ofFloat ofFloat_fixedLimit).1
  have hless := (scaled_lt_iff hlimit canonical_greatest).mpr (Or.inl (by decide))
  rw [scaled_limit] at hless
  rw [overflow]
  exact hless.trans (lt_add_of_pos_right _ (half_pos (two_zpow_pos 971)))

/-- A rounded number below the limit is read as a double. -/
theorem exists_double?_of_isRounding (hx : (ofFloat x).IsFinite) (hsmall : |exact x| < 10 ^ 21)
    {n : PlainNumber} (hd : IsRounding places (exact x) n.value) :
    ∃ y, n.text.double? = some y ∧ IsNearest n.value y := by
  have hbelow := abs_exact_le_of_lt hx hsmall
  have hone := hd.abs_sub_lt_one
  have htriangle := abs_sub_abs_le_abs_sub n.value (exact x)
  have hvalue : |n.value| < 10 ^ 21 := by
    norm_num at hbelow ⊢
    linarith
  rw [n.value_eq, abs_signed, abs_of_nonneg (by positivity)] at hvalue
  rw [n.value_eq]
  exact n.denotes.exists_double? (hvalue.trans limit_lt_overflow)

/-- A finite double below the limit is written as the number that it is rounded to, and every nearest
double to that number has the same text. -/
theorem exists_plainNumber (hx : (ofFloat x).IsFinite) (hsmall : |exact x| < 10 ^ 21)
    (places : ℕ) :
    ∃ n : PlainNumber, n.IsCanonical ∧ IsRounding places (exact x) n.value ∧
      formatNumber x places = .ok n.text ∧
      ∀ y, IsNearest n.value y → formatNumber y places = .ok n.text := by
  obtain ⟨negative, m, e, hvalue⟩ := hx
  have hx : (ofFloat x).IsFinite := ⟨negative, m, e, hvalue⟩
  have htext := formatNumber_eq_shorten hvalue hsmall places
  have hround := isRounding_ofUnits hvalue places
  rw [← PlainNumber.value_shorten] at hround
  refine ⟨_, PlainNumber.isCanonical_shorten _, hround, htext, fun y hy => ?_⟩
  -- both doubles are rounded to the number that is written
  rw [← htext, formatNumber_eq_iff hy.isFinite hx (abs_exact_lt_of_isNearest hx hsmall hround hy)
    hsmall]
  exact ⟨_, hround.of_isNearest hx hy, hround⟩

/-- **What is written, read and written again is the same**: the text of a finite double, whatever
its magnitude and the places, is read as the nearest double to the number that it denotes, and every
nearest double to that number has the same text. -/
theorem formatNumber_reread (hx : (ofFloat x).IsFinite) (places : ℕ) :
    ∃ t q, formatNumber x places = .ok t ∧ t.decimalValue? = some q ∧
      (∃ y, t.double? = some y ∧ IsNearest q y) ∧
      ∀ y, IsNearest q y → formatNumber y places = .ok t := by
  obtain ⟨negative, m, e, hvalue⟩ := hx
  have hx : (ofFloat x).IsFinite := ⟨negative, m, e, hvalue⟩
  rcases lt_or_ge |exact x| (10 ^ 21) with hsmall | hlarge
  · obtain ⟨n, -, hround, htext, hreread⟩ := exists_plainNumber hx hsmall places
    exact ⟨_, _, htext, n.decimalValue?_text, exists_double?_of_isRounding hx hsmall hround,
      hreread⟩
  · obtain ⟨units, exponent, hdenotes, -, hrounds⟩ := floatText_of_large hvalue hlarge
    have hcanonical := canonical_of_ofFloat hvalue
    refine ⟨_, _, formatNumber_of_large hx hlarge places, hdenotes.decimalValue?,
      hdenotes.exists_double? (hrounds.lt_overflow hcanonical.1 hcanonical.2), fun y hy => ?_⟩
    -- only the double itself is nearest to its shortest digits
    have heq := hy.exact_eq hvalue hrounds (by positivity)
    have hne : exact y ≠ 0 := by
      intro hzero
      rw [← heq, hzero, abs_zero] at hlarge
      norm_num at hlarge
    have hsame : floatText y = floatText x := by
      rw [floatText, floatText, ofFloat_eq_of_exact_eq hy.isFinite hx heq hne]
    rw [← heq] at hlarge
    rw [← hsame]
    exact formatNumber_of_large hy.isFinite hlarge places

/-- A tie is rounded away from zero, and what is read of it is not the number that was written. -/
theorem formatNumber_reread_eighth :
    ∃ t q, formatNumber 0.125 2 = .ok t ∧ t.decimalValue? = some q ∧
      (∃ y, t.double? = some y ∧ IsNearest q y) ∧
      ∀ y, IsNearest q y → formatNumber y 2 = .ok t := by
  have heighth : ofFloat 0.125 = .finite false (Nat.pow 2 52) (-55) := by decide +kernel
  exact formatNumber_reread ⟨_, _, _, heighth⟩ 2

end Doubles

end CssColor
