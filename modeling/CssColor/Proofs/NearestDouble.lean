import CssColor.Proofs.ExactValue

/-!
# The double nearest to a number

A number lies between two doubles, and is read as the nearer one, or of two as
near as the one with the even significand.

- `Binary64.RoundsTo`: a number is at most half the way from a value to its
  neighbours, and half the way only if the significand is even.
- `neighbours`: other values are at least one step away, and those that are
  exactly one step away have the other parity.
- `RoundsTo.abs_sub_le`, `RoundsTo.tie`: **a number is nearest to the value that
  it rounds to**.
- `IsNearest`: a double is nearest to a number; `isNearest_of_roundsTo` and
  `IsNearest.exact_eq`: **it is so if the number rounds to it, and only then**.
-/

namespace CssColor

namespace Binary64

/-! ## Neighbours -/

/-- How far below a value the previous one is: below a power of two the steps are half as long. -/
def stepBelow (m : ℕ) (e : ℤ) : ℚ :=
  if m = Nat.pow 2 52 ∧ -1074 < e then 2 ^ (e - 1) else 2 ^ e

/-- A number is no farther from a value than half the way to its neighbours, and not so far if the
significand is odd. -/
structure RoundsTo (q : ℚ) (m : ℕ) (e : ℤ) : Prop where
  lower : scaled m e - stepBelow m e / 2 ≤ q
  upper : q ≤ scaled m e + 2 ^ e / 2
  even : q = scaled m e - stepBelow m e / 2 ∨ q = scaled m e + 2 ^ e / 2 → m % 2 = 0

section Neighbours

variable {m m' : ℕ} {e e' : ℤ} {q : ℚ}

/-- What lies between the two midpoints rounds to the value, whatever its parity. -/
theorem RoundsTo.of_between (hlow : scaled m e - stepBelow m e / 2 < q)
    (hhigh : q < scaled m e + 2 ^ e / 2) : RoundsTo q m e := by
  refine ⟨hlow.le, hhigh.le, fun hend => absurd hend ?_⟩
  rintro (heq | heq)
  · exact hlow.ne' heq
  · exact hhigh.ne heq

theorem stepBelow_pos (m : ℕ) (e : ℤ) : 0 < stepBelow m e := by
  rw [stepBelow]
  split <;> exact two_zpow_pos _

/-- A positive value has one before it. -/
theorem Canonical.below (h : Canonical m e) (hm : 0 < m) :
    ∃ k p, Canonical k p ∧ scaled k p = scaled m e - stepBelow m e ∧
      scaled (k + 1) p = scaled m e ∧ (k + 1) % 2 = m % 2 := by
  obtain ⟨k, p, hk, hvalue, hparity, hplace⟩ := h.pred hm
  have hstep : stepBelow m e = 2 ^ p := by
    rw [stepBelow, hplace]
    split <;> rfl
  refine ⟨k, p, hk, ?_, hvalue, hparity⟩
  rw [← hvalue, scaled_succ, hstep, add_sub_cancel_right]

/-- **Other values are at least one step away.** -/
theorem neighbours (h : Canonical m e) (h' : Canonical m' e') :
    scaled m' e' ≤ scaled m e - stepBelow m e ∨ scaled m' e' = scaled m e ∨
      scaled m e + 2 ^ e ≤ scaled m' e' := by
  rcases le_or_succ_le h h'.lt h'.least with hle | hsucc
  · rcases Nat.eq_zero_or_pos m with rfl | hm
    · rw [scaled_eq_zero_iff.mpr rfl] at hle ⊢
      exact Or.inr (Or.inl (le_antisymm hle (scaled_nonneg m' e')))
    · obtain ⟨k, p, hk, hvalue, hnext, -⟩ := h.below hm
      rcases le_or_succ_le hk h'.lt h'.least with hbelow | hequal
      · exact Or.inl (hbelow.trans_eq hvalue)
      · rw [hnext] at hequal
        exact Or.inr (Or.inl (le_antisymm hle hequal))
  · rw [scaled_succ] at hsucc
    exact Or.inr (Or.inr hsucc)

/-- The parity of the significand changes from a value to the next. -/
theorem parity_above (h : Canonical m e) (h' : Canonical m' e')
    (heq : scaled m' e' = scaled m e + 2 ^ e) : m' % 2 = (m + 1) % 2 := by
  obtain ⟨k, p, hk, hvalue, hplace⟩ := h.succ
  have hsame := (scaled_inj h' hk (heq.trans ((scaled_succ m e).symm.trans hvalue.symm))).1
  rcases hplace with ⟨hnext, -⟩ | ⟨hhalf, -, htop⟩
  · rw [hsame, hnext]
  · rw [hsame, hhalf, htop]

/-- The parity of the significand changes from a value to the previous one. -/
theorem parity_below (h : Canonical m e) (hm : 0 < m) (h' : Canonical m' e')
    (heq : scaled m' e' = scaled m e - stepBelow m e) : (m' + 1) % 2 = m % 2 := by
  obtain ⟨k, p, hk, hvalue, -, hparity⟩ := h.below hm
  have hsame := scaled_inj h' hk (heq.trans hvalue.symm)
  rw [hsame.1, hparity]

/-! ## The nearest value -/

/-- **A number is nearest to the value that it rounds to.** -/
theorem RoundsTo.abs_sub_le (h : RoundsTo q m e) (hm : Canonical m e) (hm' : Canonical m' e') :
    |scaled m e - q| ≤ |scaled m' e' - q| := by
  have hlower := h.lower
  have hupper := h.upper
  have hstep := stepBelow_pos m e
  have hunit := two_zpow_pos e
  rcases neighbours hm hm' with hbelow | heq | habove
  · have hdistance : |scaled m' e' - q| = q - scaled m' e' := by
      rw [abs_sub_comm, abs_of_nonneg (by linarith)]
    rw [hdistance, abs_le]
    constructor <;> linarith
  · rw [heq]
  · have hdistance : |scaled m' e' - q| = scaled m' e' - q := abs_of_nonneg (by linarith)
    rw [hdistance, abs_le]
    constructor <;> linarith

/-- If another value is as near, the significand is even and that of the other value is not. -/
theorem RoundsTo.tie (h : RoundsTo q m e) (hm : Canonical m e) (hm' : Canonical m' e')
    (htie : |scaled m' e' - q| = |scaled m e - q|) (hne : scaled m' e' ≠ scaled m e) :
    m % 2 = 0 ∧ m' % 2 = 1 := by
  have hlower := h.lower
  have hupper := h.upper
  have hstep := stepBelow_pos m e
  have hunit := two_zpow_pos e
  -- the number is in the middle between both values
  have hmiddle : scaled m' e' + scaled m e = 2 * q := by
    rcases abs_eq_abs.mp htie with hsame | hopposite
    · exact absurd (sub_left_injective hsame) hne
    · linarith
  -- so it is an end of the interval, which belongs to an even significand
  rcases neighbours hm hm' with hbelow | heq | habove
  · have heven := h.even (Or.inl (by linarith))
    have hpos : 0 < m := by
      rcases Nat.eq_zero_or_pos m with rfl | hpos
      · have hnonneg := scaled_nonneg m' e'
        rw [scaled_eq_zero_iff.mpr rfl] at hbelow
        linarith
      · exact hpos
    have hparity := parity_below hm hpos hm' (by linarith)
    exact ⟨heven, by omega⟩
  · exact absurd heq hne
  · have heven := h.even (Or.inr (by linarith))
    have hparity := parity_above hm hm' (by linarith)
    exact ⟨heven, by omega⟩

end Neighbours

/-- The significand of a value; what is not finite has none. -/
def significand : Binary64 → ℕ
  | .finite _ significand _ => significand
  | .nan => 0
  | .infinite _ => 0

end Binary64

/-! ## The nearest double -/

open Binary64

/-- A finite double is nearest to a number, and if another one is as near, its significand is
even. -/
structure IsNearest (q : ℚ) (y : Float) : Prop where
  isFinite : (ofFloat y).IsFinite
  nearest : ∀ z : Float, (ofFloat z).IsFinite → |exact y - q| ≤ |exact z - q|
  even : ∀ z : Float, (ofFloat z).IsFinite → |exact z - q| = |exact y - q| → exact z ≠ exact y →
    (ofFloat y).significand % 2 = 0

section Doubles

variable {x y : Float} {q : ℚ} {negative : Bool} {m : ℕ} {e : ℤ}

theorem exact_eq (hx : ofFloat x = .finite negative m e) :
    exact x = signed negative (scaled m e) := by
  rw [exact, hx, toRat]

/-- Every canonical value that is not too large is the magnitude of a double of either sign. -/
theorem exists_float (negative : Bool) (h : Canonical m e) (hlarge : e ≤ 971) :
    ∃ x, ofFloat x = .finite negative m e :=
  ⟨_, ofFloat_floatOfMagnitude negative h hlarge⟩

/-- The distance of magnitudes is that of the numbers if they have the same sign. -/
theorem abs_exact_sub (hx : ofFloat x = .finite negative m e) (q : ℚ) :
    |exact x - signed negative q| = |scaled m e - q| := by
  rw [exact_eq hx, signed_sub, abs_signed]

theorem abs_scaled_sub_le (hx : ofFloat x = .finite negative m e) (hq : 0 ≤ q) (sign : Bool) :
    |scaled m e - q| ≤ |exact x - signed sign q| := by
  have h := abs_abs_sub_abs_le (exact x) (signed sign q)
  rwa [exact_eq hx, abs_signed, abs_signed, abs_of_nonneg (scaled_nonneg m e), abs_of_nonneg hq,
    ← exact_eq hx] at h

/-- A number that rounds to a value and to its negative is zero. -/
theorem scaled_eq_zero_of_opposite (h : RoundsTo q m e) (hm : Canonical m e) (hq : 0 ≤ q)
    (hopposite : |-scaled m e - q| = |scaled m e - q|) : scaled m e = 0 := by
  have hnonneg := scaled_nonneg m e
  rcases abs_eq_abs.mp hopposite with hsame | hother
  · linarith
  · -- the number is zero, and zero is nearest to it
    have hzero : q = 0 := by linarith
    have hnearest := h.abs_sub_le hm canonical_zero
    rw [hzero, scaled_eq_zero_iff.mpr rfl, sub_zero, sub_zero, abs_zero] at hnearest
    exact abs_nonpos_iff.mp hnearest

/-- If a double is as near to a number as the value that the number rounds to, it is that value, or
the significand is even and that of the double is not. -/
theorem eq_or_parity {z : Float} (hy : ofFloat y = .finite negative m e) (h : RoundsTo q m e)
    (hq : 0 ≤ q) (hz : (ofFloat z).IsFinite)
    (htie : |exact z - signed negative q| = |exact y - signed negative q|) :
    exact z = exact y ∨ m % 2 = 0 ∧ (ofFloat z).significand % 2 = 1 := by
  obtain ⟨sign, k, p, hz⟩ := hz
  have hm := (canonical_of_ofFloat hy).1
  have hk := (canonical_of_ofFloat hz).1
  rw [abs_exact_sub hy] at htie
  have hmagnitudes : |scaled k p - q| = |scaled m e - q| :=
    le_antisymm ((abs_scaled_sub_le hz hq negative).trans_eq htie) (h.abs_sub_le hm hk)
  by_cases hvalue : scaled k p = scaled m e
  · left
    rw [exact_eq hz, exact_eq hy, hvalue, signed_eq_signed_iff]
    by_cases hsign : sign = negative
    · exact Or.inl hsign
    · obtain rfl : sign = !negative := Bool.eq_not.mpr hsign
      rw [exact_eq hz, signed_not, hvalue, signed_sub, abs_signed] at htie
      exact Or.inr (scaled_eq_zero_of_opposite h hm hq htie)
  · right
    rw [hz]
    exact h.tie hm hk hmagnitudes hvalue

/-- **A double is nearest to the numbers that round to it.** -/
theorem isNearest_of_roundsTo (hy : ofFloat y = .finite negative m e) (h : RoundsTo q m e)
    (hq : 0 ≤ q) : IsNearest (signed negative q) y where
  isFinite := ⟨negative, m, e, hy⟩
  nearest z hz := by
    obtain ⟨sign, k, p, hz⟩ := hz
    have hm := (canonical_of_ofFloat hy).1
    have hk := (canonical_of_ofFloat hz).1
    rw [abs_exact_sub hy]
    exact (h.abs_sub_le hm hk).trans (abs_scaled_sub_le hz hq negative)
  even z hz htie hne := by
    rw [hy]
    rcases eq_or_parity hy h hq hz htie with heq | hparity
    · exact absurd heq hne
    · exact hparity.1

/-- **Only one number is that of a nearest double.** -/
theorem IsNearest.exact_eq (hz : IsNearest (signed negative q) x)
    (hy : ofFloat y = .finite negative m e) (h : RoundsTo q m e) (hq : 0 ≤ q) :
    exact x = exact y := by
  have hfinite : (ofFloat y).IsFinite := ⟨negative, m, e, hy⟩
  have hnearest := isNearest_of_roundsTo hy h hq
  have htie := le_antisymm (hz.nearest y hfinite) (hnearest.nearest x hz.isFinite)
  by_contra hne
  -- both would be even, and neighbours are not
  have heven := hz.even y hfinite htie.symm (Ne.symm hne)
  rcases eq_or_parity hy h hq hz.isFinite htie with heq | hparity
  · exact hne heq
  · omega

end Doubles

end CssColor
