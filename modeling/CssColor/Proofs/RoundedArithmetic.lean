import CssColor.Proofs.DoubleReading

/-!
# Rounded sums and products

The arithmetic of doubles works on the exact values and rounds the result once.
What is rounded is the quotient that is left of a significand, as it is when a
decimal number is read, so both give the nearest double.

- `isNearest_mul`, `isNearest_add`: **a product or a sum of finite doubles is the
  double nearest to the exact one**, unless that is too large.
- `IsNearest.le`, `IsNearest.ge`: rounding does not pass a double.
- `compare_unpack`, `lt_iff_exact_lt`: finite doubles are compared as numbers.
- `floorFloat_eq`: the whole number below a finite double is the one below its
  number.
-/

namespace CssColor

namespace Binary64

open Float.Model (UnpackedFloat)
open Float.Model.UnpackedFloat

variable {m m' : ℕ} {e e' : ℤ}

/-! ## Rounded values -/

/-- Canonical values of the same bits are the same. -/
theorem Canonical.eq_of_bits (h : Canonical m e) (h' : Canonical m' e')
    (heq : (e + 1074).toNat * Nat.pow 2 52 + m = (e' + 1074).toNat * Nat.pow 2 52 + m') :
    m = m' ∧ e = e' := by
  obtain ⟨hlt, hleast, hfull⟩ := h
  obtain ⟨hlt', hleast', hfull'⟩ := h'
  simp only [Nat.pow_eq] at hlt hfull hlt' hfull' heq
  omega

/-- **A rounded value is the nearest double**, unless it is too large. -/
theorem isNearest_pack_rounded (s : Sign) (hplace : 52 ≤ m.log2 ∨ e ≤ -1074)
    (hsmall : scaled m e < overflow) :
    IsNearest (signed (s == .negative) (scaled m e))
      ⟨Float.Model.pack (roundWithAccuracy .binary64 s m e .exact)⟩ := by
  obtain ⟨k, p, hk, hrounds, hbits⟩ :=
    exists_roundsTo_quotient (Nat.two_pow_pos (excess m e)) (canonical_shift m hplace)
  obtain ⟨k', p', hk', hbits', hresult⟩ := roundWithAccuracy_bits s m hplace
  obtain ⟨rfl, rfl⟩ := hk'.eq_of_bits hk (hbits'.symm.trans hbits)
  have hquotient : (m / (2 ^ excess m e : ℕ) * 2 ^ (e + excess m e) : ℚ) = scaled m e := by
    rw [zpow_add₀ two_ne_zero, zpow_natCast, scaled]
    push_cast
    field_simp
  rw [hquotient] at hrounds
  refine isNearest_of_roundsTo ?_ hrounds (scaled_nonneg m e)
  rcases hresult with ⟨rfl, hzero⟩ | ⟨hpos, hfinite⟩
  · have hleast : p' = -1074 := hk'.full.resolve_left (by decide)
    rw [hzero, ofFloat_pack_zero, hleast]
  · rw [hfinite, ofFloat_pack_finite s hpos hk', if_pos (hrounds.exponent_le hk' hsmall)]

/-- A value of any exponent is rounded to the nearest double. -/
theorem isNearest_pack_round (s : Sign) (hm : m ≠ 0) (hsmall : scaled m e < overflow) :
    IsNearest (signed (s == .negative) (scaled m e))
      ⟨Float.Model.pack (UnpackedFloat.round .binary64 s m e)⟩ := by
  obtain ⟨k, hround, -, hplace⟩ := exists_round s e hm
  have hvalue : scaled m e = scaled (m <<< k) (e - k) := by
    rw [Nat.shiftLeft_eq, scaled_shift, sub_add_cancel]
  rw [hround, hvalue]
  rw [hvalue] at hsmall
  exact isNearest_pack_rounded s hplace hsmall

end Binary64

open Binary64

section Arithmetic

variable {x y : Float} {q : ℚ}

/-- A finite double is nearest to its own number. -/
theorem isNearest_exact (hx : (ofFloat x).IsFinite) : IsNearest (exact x) x where
  isFinite := hx
  nearest z _ := by
    rw [sub_self, abs_zero]
    exact abs_nonneg _
  even z _ htie hne := by
    rw [sub_self, abs_zero, abs_eq_zero, sub_eq_zero] at htie
    exact absurd htie hne

/-- A double of the same number is nearest as well. -/
theorem IsNearest.congr (h : IsNearest q y) (hx : (ofFloat x).IsFinite)
    (heq : exact x = exact y) : IsNearest q x := by
  refine ⟨hx, fun z hz => ?_, fun z hz htie hne => ?_⟩
  · rw [heq]
    exact h.nearest z hz
  · rw [heq] at htie hne
    have heven := h.even z hz htie hne
    obtain ⟨negative, m, e, hx⟩ := hx
    obtain ⟨negative', m', e', hy⟩ := h.isFinite
    -- both have one significand, as their magnitudes are the same
    have hmagnitude := congrArg (|·|) heq
    rw [exact, exact, hx, hy, abs_toRat, abs_toRat] at hmagnitude
    obtain ⟨rfl, rfl⟩ :=
      scaled_inj (canonical_of_ofFloat hx).1 (canonical_of_ofFloat hy).1 hmagnitude
    rw [hy] at heven
    rw [hx]
    exact heven

open Float.Model (UnpackedFloat)
open Float.Model.UnpackedFloat

/-- A finite double is taken apart into a zero, or the sign, the significand and the exponent of its
number. -/
theorem unpack_of_isFinite (hx : (ofFloat x).IsFinite) :
    (∃ s, x.toModel.unpack = .zero s ∧ exact x = 0) ∨
      ∃ s m e hm, x.toModel.unpack = .finite s m e hm ∧ Canonical m e ∧
        exact x = signed (s == .negative) (scaled m e) := by
  have hvalue := ofFloat_eq x
  rcases unpack_of_isBelow hx.isBelow with ⟨s, hzero⟩ | ⟨s, m, e, hm, hunpack, hcanonical, -, -⟩
  · rw [hzero] at hvalue
    exact Or.inl ⟨s, hzero, by rw [exact_eq hvalue, scaled_eq_zero_iff.mpr rfl, signed_zero]⟩
  · rw [hunpack] at hvalue
    exact Or.inr ⟨s, m, e, hm, hunpack, hcanonical, exact_eq hvalue⟩

/-- A finite double is a number. -/
theorem isNaN_eq_false (hx : (ofFloat x).IsFinite) : x.isNaN = false := by
  show x.toModel.unpack.isNaN = false
  rcases unpack_of_isFinite hx with ⟨s, hunpack, -⟩ | ⟨s, m, e, hm, hunpack, -, -⟩
  · rw [hunpack]
    rfl
  · rw [hunpack]
    rfl

/-- The sign of a product. -/
theorem signed_mul_signed (s s' : Sign) (q r : ℚ) :
    signed (s == .negative) q * signed (s' == .negative) r =
      signed (s * s' == .negative) (q * r) := by
  cases s <;> cases s'
  · exact neg_mul_neg q r
  · exact neg_mul q r
  · exact mul_neg q r
  · rfl

/-- Zero of either sign is zero. -/
theorem exact_pack_zero (s : Sign) : exact ⟨Float.Model.pack (.zero s)⟩ = 0 := by
  rw [exact_eq (ofFloat_pack_zero s), scaled_eq_zero_iff.mpr rfl, signed_zero]

theorem isNearest_pack_zero (s : Sign) : IsNearest 0 ⟨Float.Model.pack (.zero s)⟩ := by
  have h := isNearest_exact ⟨_, _, _, ofFloat_pack_zero s⟩
  rwa [exact_pack_zero] at h

/-- A finite double is nearest to its number, taken apart and put together as well. -/
theorem isNearest_pack_unpack (hx : (ofFloat x).IsFinite) :
    IsNearest (exact x) ⟨Float.Model.pack x.toModel.unpack⟩ := by
  have hsame := ofFloat_pack_unpack hx.isBelow
  have hexact : exact ⟨Float.Model.pack x.toModel.unpack⟩ = exact x := by
    rw [exact, exact, hsame]
  exact (isNearest_exact hx).congr (hsame ▸ hx) hexact

/-- **A product of finite doubles is the double nearest to the exact product**, unless that is too
large. -/
theorem isNearest_mul (hx : (ofFloat x).IsFinite) (hy : (ofFloat y).IsFinite)
    (hsmall : |exact x * exact y| < overflow) : IsNearest (exact x * exact y) (x * y) := by
  have hmul : x * y = ⟨Float.Model.pack (.mul .binary64 x.toModel.unpack y.toModel.unpack)⟩ := rfl
  rw [hmul]
  rcases unpack_of_isFinite hx with ⟨s, hzero, hvalue⟩ | ⟨s, m, e, hm, hunpack, hcanonical, hvalue⟩
  · rw [hvalue, zero_mul]
    rcases unpack_of_isFinite hy with ⟨s', hzero', -⟩ | ⟨s', m', e', hm', hunpack', -, -⟩
    · rw [hzero, hzero']
      exact isNearest_pack_zero (s * s')
    · rw [hzero, hunpack']
      exact isNearest_pack_zero (s * s')
  · rcases unpack_of_isFinite hy with
      ⟨s', hzero', hvalue'⟩ | ⟨s', m', e', hm', hunpack', hcanonical', hvalue'⟩
    · rw [hunpack, hzero', hvalue', mul_zero]
      exact isNearest_pack_zero (s * s')
    · have hproduct : exact x * exact y =
          signed (s * s' == .negative) (scaled (m * m') (e + e')) := by
        have hscaled : scaled (m * m') (e + e') = scaled m e * scaled m' e' := by
          rw [scaled, scaled, scaled, zpow_add₀ two_ne_zero, Nat.cast_mul]
          ring
        rw [hvalue, hvalue', hscaled]
        exact signed_mul_signed s s' _ _
      rw [hproduct, abs_signed, abs_of_nonneg (scaled_nonneg _ _)] at hsmall
      rw [hproduct, hunpack, hunpack']
      exact isNearest_pack_rounded (s * s')
        (log2_mul_or_place hm hm' hcanonical hcanonical') hsmall

/-- A whole number times a power of two is rounded to the nearest double. -/
theorem isNearest_pack_normalize {i e : ℤ} (s : Sign) (hsmall : |(i * 2 ^ e : ℚ)| < overflow) :
    IsNearest (i * 2 ^ e) ⟨Float.Model.pack (normalize .binary64 i e s)⟩ := by
  have hmagnitude : |(i * 2 ^ e : ℚ)| = scaled i.natAbs e := by
    rw [scaled, abs_mul, abs_of_pos (two_zpow_pos e), Nat.cast_natAbs, Int.cast_abs]
  rw [hmagnitude] at hsmall
  rw [UnpackedFloat.normalize]
  split
  · rename_i hcompare
    have hneg := Int.compare_eq_lt.mp hcompare
    have habs : (-i).toNat = i.natAbs := by omega
    have hvalue : (i * 2 ^ e : ℚ) = signed true (scaled i.natAbs e) := by
      rw [← hmagnitude, abs_mul, abs_of_pos (two_zpow_pos e), abs_of_neg (Int.cast_lt_zero.mpr hneg),
        signed, if_pos rfl, neg_mul, neg_neg]
    rw [hvalue, habs]
    exact isNearest_pack_round .negative (by omega) hsmall
  · rename_i hcompare
    rw [Int.compare_eq_eq.mp hcompare, Int.cast_zero, zero_mul]
    exact isNearest_pack_zero s
  · rename_i hcompare
    have hpos := Int.compare_eq_gt.mp hcompare
    have habs : i.toNat = i.natAbs := by omega
    have hvalue : (i * 2 ^ e : ℚ) = signed false (scaled i.natAbs e) := by
      rw [← hmagnitude, abs_mul, abs_of_pos (two_zpow_pos e), abs_of_pos (Int.cast_pos.mpr hpos)]
      rfl
    rw [hvalue, habs]
    exact isNearest_pack_round .positive (by omega) hsmall

/-- A value as a whole number times a power of two with a smaller exponent. -/
theorem signed_scaled_of_le (s : Sign) (m : ℕ) {e k : ℤ} (h : k ≤ e) :
    signed (s == .negative) (scaled m e) = s.apply (m <<< (e - k).toNat : ℕ) * 2 ^ k := by
  rw [scaled_of_le m h, scaled, Nat.shiftLeft_eq]
  cases s <;> simp [signed, Sign.apply]

/-- **A sum of finite doubles is the double nearest to the exact sum**, unless that is too large. -/
theorem isNearest_add (hx : (ofFloat x).IsFinite) (hy : (ofFloat y).IsFinite)
    (hsmall : |exact x + exact y| < overflow) : IsNearest (exact x + exact y) (x + y) := by
  have hadd : x + y = ⟨Float.Model.pack (.add .binary64 x.toModel.unpack y.toModel.unpack)⟩ := rfl
  rw [hadd]
  rcases unpack_of_isFinite hx with ⟨s, hzero, hvalue⟩ | ⟨s, m, e, hm, hunpack, -, hvalue⟩
  · rcases unpack_of_isFinite hy with ⟨s', hzero', hvalue'⟩ | ⟨s', m', e', hm', hunpack', -, -⟩
    · rw [hvalue, hvalue', add_zero, hzero, hzero', UnpackedFloat.add]
      split
      · exact isNearest_pack_zero _
      · exact isNearest_pack_zero _
    · have hsame : UnpackedFloat.add .binary64 x.toModel.unpack y.toModel.unpack =
          y.toModel.unpack := by
        rw [hzero, hunpack']
        rfl
      rw [hvalue, zero_add, hsame]
      exact isNearest_pack_unpack hy
  · rcases unpack_of_isFinite hy with ⟨s', hzero', hvalue'⟩ | ⟨s', m', e', hm', hunpack', -, hvalue'⟩
    · have hsame : UnpackedFloat.add .binary64 x.toModel.unpack y.toModel.unpack =
          x.toModel.unpack := by
        rw [hzero', hunpack]
        rfl
      rw [hvalue', add_zero, hsame]
      exact isNearest_pack_unpack hx
    · -- both are written with the smaller exponent
      have hsum : exact x + exact y =
          ((s.apply (m <<< (e - min e e').toNat : ℕ) +
            s'.apply (m' <<< (e' - min e e').toNat : ℕ) : ℤ) : ℚ) * 2 ^ min e e' := by
        rw [hvalue, hvalue', signed_scaled_of_le s m (min_le_left e e'),
          signed_scaled_of_le s' m' (min_le_right e e'), ← add_mul, Int.cast_add]
      rw [hsum] at hsmall
      rw [hsum, hunpack, hunpack', UnpackedFloat.add]
      exact isNearest_pack_normalize .positive hsmall

/-! ## Rounding and order -/

/-- Rounding does not pass a double above. -/
theorem IsNearest.le (h : IsNearest q x) (hy : (ofFloat y).IsFinite) (hle : q ≤ exact y) :
    exact x ≤ exact y := by
  by_contra hgt
  have hnearest := h.nearest y hy
  rw [abs_of_nonneg (sub_nonneg.mpr hle), abs_of_nonneg (by linarith)] at hnearest
  linarith

/-- Rounding does not pass a double below. -/
theorem IsNearest.ge (h : IsNearest q x) (hy : (ofFloat y).IsFinite) (hle : exact y ≤ q) :
    exact y ≤ exact x := by
  by_contra hlt
  have hnearest := h.nearest y hy
  rw [abs_of_nonpos (sub_nonpos.mpr hle), abs_of_nonpos (by linarith)] at hnearest
  linarith

/-- A finite double is not too large. -/
theorem abs_exact_lt_overflow (hx : (ofFloat x).IsFinite) : |exact x| < overflow := by
  obtain ⟨negative, m, e, hx⟩ := hx
  obtain ⟨hcanonical, hlarge⟩ := canonical_of_ofFloat hx
  have hrounds : RoundsTo (scaled m e) m e :=
    .of_between (sub_lt_self _ (half_pos (stepBelow_pos m e)))
      (lt_add_of_pos_right _ (half_pos (two_zpow_pos e)))
  rw [exact, hx, abs_toRat]
  exact hrounds.lt_overflow hcanonical hlarge

/-- The number of a double is rounded to itself. -/
theorem IsNearest.eq_of_exact (h : IsNearest (exact y) x) (hy : (ofFloat y).IsFinite) :
    exact x = exact y :=
  le_antisymm (h.le hy le_rfl) (h.ge hy le_rfl)

/-- The doubles nearest to a number all have the same one, unless it is too large. -/
theorem IsNearest.unique (hx : IsNearest q x) (hy : IsNearest q y) (hsmall : |q| < overflow) :
    exact x = exact y := by
  rcases eq_or_ne q 0 with rfl | hne
  · rw [← exact_pack_zero .positive] at hx hy
    have hzero := (isNearest_pack_zero .positive).isFinite
    exact (hx.eq_of_exact hzero).trans (hy.eq_of_exact hzero).symm
  · have hnum : 0 < q.num.natAbs := Int.natAbs_pos.mpr (Rat.num_ne_zero.mpr hne)
    have hquotient : |q| = q.num.natAbs / q.den := by
      rw [Nat.cast_natAbs, Int.cast_abs]
      conv_lhs => rw [← Rat.num_div_den q, abs_div, Nat.abs_cast]
    have hsign : q = signed (decide (q < 0)) |q| := by
      by_cases hneg : q < 0
      · rw [decide_eq_true hneg, signed, if_pos rfl, abs_of_neg hneg, neg_neg]
      · rw [decide_eq_false hneg, signed, if_neg Bool.false_ne_true, abs_of_nonneg (not_lt.mp hneg)]
    rw [hquotient] at hsmall
    obtain ⟨m, e, hz, hrounds⟩ := nearest_roundsTo hnum q.den_pos (decide (q < 0)) hsmall
    rw [← hquotient] at hrounds
    rw [hsign] at hx hy
    exact (hx.exact_eq hz hrounds (abs_nonneg q)).trans (hy.exact_eq hz hrounds (abs_nonneg q)).symm

/-- Canonical values are compared by their exponents first, as numbers are. -/
theorem compare_scaled {m m' : ℕ} {e e' : ℤ} (h : Canonical m e) (h' : Canonical m' e') :
    (compare e e').then (compare m m') = compare (scaled m e) (scaled m' e') := by
  rcases lt_trichotomy (scaled m e) (scaled m' e') with hlt | heq | hgt
  · rw [compare_lt_iff_lt.mpr hlt, compare_then_eq_lt_iff, ← scaled_lt_iff h h']
    exact hlt
  · obtain ⟨rfl, rfl⟩ := scaled_inj h h' heq
    rw [compare_eq_iff_eq.mpr rfl, compare_eq_iff_eq.mpr rfl, compare_eq_iff_eq.mpr rfl]
    rfl
  · rw [compare_gt_iff_gt.mpr hgt, Ordering.then_eq_gt, Int.compare_eq_gt, Int.compare_eq_eq,
      Nat.compare_eq_gt]
    have hless := (scaled_lt_iff h' h).mp hgt
    omega

theorem compare_neg_neg (q r : ℚ) : compare (-q) (-r) = (compare q r).swap := by
  rcases lt_trichotomy q r with hlt | rfl | hgt
  · rw [compare_lt_iff_lt.mpr hlt, compare_gt_iff_gt.mpr (neg_lt_neg hlt)]
    rfl
  · rw [compare_eq_iff_eq.mpr rfl, compare_eq_iff_eq.mpr rfl]
    rfl
  · rw [compare_gt_iff_gt.mpr hgt, compare_lt_iff_lt.mpr (neg_lt_neg hgt)]
    rfl

/-- **Finite doubles are compared as numbers.** -/
theorem compare_unpack (hx : (ofFloat x).IsFinite) (hy : (ofFloat y).IsFinite) :
    x.toModel.unpack.compare y.toModel.unpack = some (compare (exact x) (exact y)) := by
  have hpos : ∀ {m : ℕ} (e : ℤ), 0 < m → 0 < scaled m e := fun {m} e hm =>
    (scaled_nonneg m e).lt_of_ne' (mt scaled_eq_zero_iff.mp hm.ne')
  rcases unpack_of_isFinite hx with ⟨s, hunpack, hvalue⟩ | ⟨s, m, e, hm, hunpack, hcanonical, hvalue⟩
  · rcases unpack_of_isFinite hy with ⟨s', hunpack', hvalue'⟩ | ⟨s', m', e', hm', hunpack', -, hvalue'⟩
    · rw [hunpack, hunpack', hvalue, hvalue', compare_eq_iff_eq.mpr rfl]
      rfl
    · rw [hunpack, hunpack', hvalue, hvalue']
      cases s' with
      | negative => exact congrArg some (compare_gt_iff_gt.mpr (neg_lt_zero.mpr (hpos e' hm'))).symm
      | positive => exact congrArg some (compare_lt_iff_lt.mpr (hpos e' hm')).symm
  · rcases unpack_of_isFinite hy with
      ⟨s', hunpack', hvalue'⟩ | ⟨s', m', e', hm', hunpack', hcanonical', hvalue'⟩
    · rw [hunpack, hunpack', hvalue, hvalue']
      cases s with
      | negative => exact congrArg some (compare_lt_iff_lt.mpr (neg_lt_zero.mpr (hpos e hm))).symm
      | positive => exact congrArg some (compare_gt_iff_gt.mpr (hpos e hm)).symm
    · have hsame := compare_scaled hcanonical hcanonical'
      have hless : -scaled m e < scaled m' e' :=
        (neg_lt_zero.mpr (hpos e hm)).trans (hpos e' hm')
      have hmore : -scaled m' e' < scaled m e :=
        (neg_lt_zero.mpr (hpos e' hm')).trans (hpos e hm)
      rw [hunpack, hunpack', hvalue, hvalue']
      cases s with
      | negative =>
        cases s' with
        | negative => exact congrArg some ((congrArg _ hsame).trans (compare_neg_neg _ _).symm)
        | positive => exact congrArg some (compare_lt_iff_lt.mpr hless).symm
      | positive =>
        cases s' with
        | negative => exact congrArg some (compare_gt_iff_gt.mpr hmore).symm
        | positive => exact congrArg some hsame

theorem lt_iff_exact_lt (hx : (ofFloat x).IsFinite) (hy : (ofFloat y).IsFinite) :
    x < y ↔ exact x < exact y := by
  rw [lt_iff_compare, compare_unpack hx hy, Option.some_inj, compare_lt_iff_lt]

theorem le_iff_exact_le (hx : (ofFloat x).IsFinite) (hy : (ofFloat y).IsFinite) :
    x ≤ y ↔ exact x ≤ exact y := by
  rw [le_iff_compare, compare_unpack hx hy, Option.any_some, ← Ordering.ne_gt_iff_isLE]
  exact compare_le_iff_le

/-! ## Whole numbers -/

/-- **The whole number below a finite double** is the one below its number. -/
theorem floorFloat_eq (hx : (ofFloat x).IsFinite) : floorFloat x = .ok ⌊exact x⌋ := by
  obtain ⟨negative, m, e, hvalue⟩ := hx
  rw [floorFloat, hvalue, exact_eq hvalue]
  have hsigned : signed negative (m : ℚ) = ((if negative then -m else m : ℤ) : ℚ) := by
    cases negative <;> simp [signed]
  have hscaled : signed negative (scaled m e) = signed negative (m : ℚ) * 2 ^ e := by
    cases negative <;> simp [signed, scaled]
  rw [hscaled, hsigned]
  show Except.ok (floorFinite negative m e) = _
  rw [floorFinite]
  generalize (if negative then -m else m : ℤ) = i
  by_cases hneg : e < 0
  · have hquotient : (i * 2 ^ e : ℚ) = i / (Nat.pow 2 (-e).toNat : ℕ) := by
      rw [zpow_eq_div two_ne_zero, Int.toNat_of_nonpos hneg.le, pow_zero, mul_one_div, Nat.pow_eq,
        Nat.cast_pow, Nat.cast_ofNat]
    rw [if_pos hneg, hquotient, Rat.floor_intCast_div_natCast,
      Int.fdiv_eq_ediv_of_nonneg _ (Int.natCast_nonneg _)]
  · have hwhole : (i * 2 ^ e : ℚ) = (i * (Nat.pow 2 e.toNat : ℕ) : ℤ) := by
      rw [zpow_eq_div two_ne_zero, Int.toNat_of_nonpos (by omega : -e ≤ 0), pow_zero, div_one,
        Nat.pow_eq]
      push_cast
      rfl
    rw [if_neg hneg, hwhole, Int.floor_intCast]

end Arithmetic

end CssColor
