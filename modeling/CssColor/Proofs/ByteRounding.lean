import CssColor.Proofs.Notation
import CssColor.Proofs.Rereading
import CssColor.Proofs.RoundedArithmetic

/-!
# Bytes of components

A component is limited to the range from zero to one, scaled by 255 and rounded
to a whole number. Scaling rounds once, and adding a half rounds again.

- `UnitValue`: a finite double from zero to one; `unitValue_clampUnit`: what is
  limited is one, whatever it was.
- `UnitValue.sum_bounds`: both roundings stay between doubles of few bits.
- `UnitValue.exists_roundHalfUp`, `Rendering.exists_byte_le`: **every component has
  a byte**.
- `UnitValue.roundHalfUp_of_near`, `Rendering.byte_of_near`: **a component near a
  byte has that byte**; rounding noise is far too small to matter.
-/

namespace CssColor

open Binary64

/-! ## Constants -/

theorem ofFloat_zero : ofFloat 0.0 = .finite false 0 (-1074) := by decide +kernel

theorem ofFloat_one : ofFloat 1.0 = .finite false (Nat.pow 2 52) (-52) := by decide +kernel

theorem ofFloat_half : ofFloat 0.5 = .finite false (Nat.pow 2 52) (-53) := by decide +kernel

theorem ofFloat_byte : ofFloat 255.0 = .finite false (255 * Nat.pow 2 45) (-45) := by
  decide +kernel

theorem exact_zero : exact 0.0 = 0 := by
  rw [exact_eq ofFloat_zero]
  norm_num [signed, scaled]

theorem exact_one : exact 1.0 = 1 := by
  rw [exact_eq ofFloat_one]
  norm_num [signed, scaled]

theorem exact_half : exact 0.5 = 1 / 2 := by
  rw [exact_eq ofFloat_half]
  norm_num [signed, scaled]

theorem exact_byte : exact 255.0 = 255 := by
  rw [exact_eq ofFloat_byte]
  norm_num [signed, scaled]

/-! ## Whole numbers and errors -/

section Grid

variable {x : Float} {q : ℚ}

/-- A whole number of 53 bits is kept when it becomes a double. -/
theorem exact_toFloat {n : ℕ} (hn : n < Nat.pow 2 53) :
    (ofFloat n.toFloat).IsFinite ∧ exact n.toFloat = n := by
  obtain ⟨z, hz, hvalue⟩ := exists_whole (k := n) hn
  rw [Int.cast_natCast] at hvalue
  have hword : n.toUInt64.toNat = n :=
    UInt64.toNat_ofNat_of_lt' (Nat.lt_trans hn (by decide))
  have hpack : n.toUInt64.toFloat =
      ⟨Float.Model.pack (Float.Model.UnpackedFloat.normalize .binary64 n.toUInt64.toNat 0
        .positive)⟩ := rfl
  -- the word is taken over, and then multiplied by a power of ten that is one
  have hwhole : IsNearest (exact z) n.toUInt64.toFloat := by
    have hnearest := isNearest_pack_normalize (i := n) (e := 0) .positive
    rw [zpow_zero, mul_one, Int.cast_natCast, ← hvalue] at hnearest
    rw [hpack, hword]
    exact hnearest (abs_exact_lt_overflow hz)
  have hproduct : n.toFloat = n.toUInt64.toFloat * 1.0 := by
    show Float.ofScientific n false 0 = _
    rw [Float.ofScientific, dif_pos ⟨hn, by decide⟩]
    rfl
  have hnearest := isNearest_mul hwhole.isFinite ⟨_, _, _, ofFloat_one⟩
  rw [exact_one, mul_one, ← hproduct, hwhole.eq_of_exact hz] at hnearest
  have hfinal := hnearest (abs_exact_lt_overflow hz)
  exact ⟨hfinal.isFinite, (hfinal.eq_of_exact hz).trans hvalue⟩

/-- **A rounding is off by half a unit at most**, counted in units of which no more than `2 ^ 52` are
needed. -/
theorem IsNearest.abs_sub_le (h : IsNearest q x) {e : ℤ} (hq : |q| ≤ 2 ^ 52 * 2 ^ e)
    (hleast : -1074 ≤ e) (hlarge : e ≤ 971) : |exact x - q| ≤ 2 ^ e / 2 := by
  have hunit := two_zpow_pos e
  have hround := abs_sub_round (q / 2 ^ e)
  have hcount : |q / 2 ^ e| ≤ 2 ^ 52 := by
    rwa [abs_div, abs_of_pos hunit, div_le_iff₀ hunit]
  have hfew : (round (q / 2 ^ e)).natAbs < Nat.pow 2 53 := by
    have htriangle := abs_sub_abs_le_abs_sub (round (q / 2 ^ e) : ℚ) (q / 2 ^ e)
    rw [abs_sub_comm] at htriangle
    have hbound : |(round (q / 2 ^ e) : ℚ)| < 2 ^ 53 := by linarith
    have hcast : |round (q / 2 ^ e)| < 2 ^ 53 := by exact_mod_cast hbound
    rw [Int.abs_eq_natAbs] at hcast
    exact_mod_cast hcast
  obtain ⟨z, hz, hvalue⟩ := exists_scaled hfew hleast hlarge
  calc |exact x - q| ≤ |exact z - q| := h.nearest z hz
    _ = |q / 2 ^ e - round (q / 2 ^ e)| * 2 ^ e := by
        have hfactor : (q / 2 ^ e - round (q / 2 ^ e)) * 2 ^ e = q - exact z := by
          rw [sub_mul, div_mul_cancel₀ _ hunit.ne', hvalue]
        rw [abs_sub_comm, ← hfactor, abs_mul, abs_of_pos hunit]
    _ ≤ 1 / 2 * 2 ^ e := mul_le_mul_of_nonneg_right hround hunit.le
    _ = 2 ^ e / 2 := by ring

end Grid

/-! ## Limited components -/

/-- A finite double from zero to one. -/
structure UnitValue (x : Float) : Prop where
  isFinite : (ofFloat x).IsFinite
  nonneg : 0 ≤ exact x
  le_one : exact x ≤ 1

variable {x y : Float}

theorem zero_lt_iff (hx : (ofFloat x).IsFinite) : 0.0 < x ↔ 0 < exact x := by
  rw [lt_iff_exact_lt ⟨_, _, _, ofFloat_zero⟩ hx, exact_zero]

theorem lt_one_iff (hx : (ofFloat x).IsFinite) : x < 1.0 ↔ exact x < 1 := by
  rw [lt_iff_exact_lt hx ⟨_, _, _, ofFloat_one⟩, exact_one]

/-- What is compared with zero and one lies between them. -/
theorem unitValue_iff : UnitValue x ↔ 0.0 ≤ x ∧ x ≤ 1.0 := by
  have hlow : (ofFloat x).IsFinite → (0.0 ≤ x ↔ 0 ≤ exact x) := fun hx => by
    rw [le_iff_exact_le ⟨_, _, _, ofFloat_zero⟩ hx, exact_zero]
  have hhigh : (ofFloat x).IsFinite → (x ≤ 1.0 ↔ exact x ≤ 1) := fun hx => by
    rw [le_iff_exact_le hx ⟨_, _, _, ofFloat_one⟩, exact_one]
  constructor
  · rintro ⟨hx, hnonneg, hle⟩
    exact ⟨(hlow hx).mpr hnonneg, (hhigh hx).mpr hle⟩
  · rintro ⟨hnonneg, hle⟩
    have hx := isFinite_of_le hnonneg hle
    exact ⟨hx, (hlow hx).mp hnonneg, (hhigh hx).mp hle⟩

theorem unitValue_zero : UnitValue 0.0 :=
  ⟨⟨_, _, _, ofFloat_zero⟩, exact_zero.ge, exact_zero.trans_le zero_le_one⟩

theorem unitValue_one : UnitValue 1.0 :=
  ⟨⟨_, _, _, ofFloat_one⟩, zero_le_one.trans_eq exact_one.symm, exact_one.le⟩

/-- What is nearest to a number from zero to one lies between them too. -/
theorem IsNearest.unitValue {q : ℚ} (h : IsNearest q x) (hlow : 0 ≤ q) (hhigh : q ≤ 1) :
    UnitValue x := by
  have hnonneg := h.ge unitValue_zero.isFinite (exact_zero.trans_le hlow)
  have hle := h.le unitValue_one.isFinite (hhigh.trans_eq exact_one.symm)
  rw [exact_zero] at hnonneg
  rw [exact_one] at hle
  exact ⟨h.isFinite, hnonneg, hle⟩

/-- **A limited component is a number from zero to one**, whatever it was. -/
theorem unitValue_clampUnit (x : Float) : UnitValue (clampUnit x) := by
  rcases clampUnit_cases x with hzero | hone | ⟨hlow, hhigh, hkept⟩
  · rw [hzero]
    exact unitValue_zero
  · rw [hone]
    exact unitValue_one
  · have hx := (isBelow_of_lt_one hlow hhigh).isFinite
    rw [hkept]
    exact ⟨hx, ((zero_lt_iff hx).mp hlow).le, ((lt_one_iff hx).mp hhigh).le⟩

/-- A finite component is limited as a number is. -/
theorem exact_clampUnit (hx : (ofFloat x).IsFinite) :
    exact (clampUnit x) = max 0 (min 1 (exact x)) := by
  rw [clampUnit, clamp, smaller, larger]
  by_cases hlow : (0.0 : Float) < x
  · have hpos := (zero_lt_iff hx).mp hlow
    rw [if_pos hlow]
    by_cases hhigh : x < 1.0
    · have hless := (lt_one_iff hx).mp hhigh
      rw [if_pos hhigh, min_eq_right hless.le, max_eq_right hpos.le]
    · have hmore := not_lt.mp (mt (lt_one_iff hx).mpr hhigh)
      rw [if_neg hhigh, exact_one, min_eq_left hmore, max_eq_right zero_le_one]
  · have hneg := not_lt.mp (mt (zero_lt_iff hx).mpr hlow)
    have hone : (0.0 : Float) < 1.0 := by decide
    rw [if_neg hlow, if_pos hone, exact_zero, min_eq_right (hneg.trans zero_le_one),
      max_eq_left hneg]

theorem UnitValue.exact_clampUnit (hx : UnitValue x) : exact (clampUnit x) = exact x := by
  rw [CssColor.exact_clampUnit hx.isFinite, min_eq_right hx.le_one, max_eq_right hx.nonneg]

/-! ## Rounded bytes -/

/-- The two roundings between a component and its byte. -/
structure ByteSteps (x : Float) : Prop where
  scaled : IsNearest (exact x * 255) (x * 255.0)
  nonneg : 0 ≤ exact (x * 255.0)
  le_byte : exact (x * 255.0) ≤ 255
  sum : IsNearest (exact (x * 255.0) + 1 / 2) (x * 255.0 + 0.5)
  floor : roundHalfUp (x * 255.0) = .ok ⌊exact (x * 255.0 + 0.5)⌋

theorem byte_lt_overflow : (256 : ℚ) < overflow :=
  lt_trans (by norm_num) limit_lt_overflow

/-- A component is scaled with one rounding, and a half is added with another. -/
theorem UnitValue.byteSteps (hx : UnitValue x) : ByteSteps x := by
  have hlow := hx.nonneg
  have hhigh := hx.le_one
  have hscaled : IsNearest (exact x * 255) (x * 255.0) := by
    have hproduct := isNearest_mul hx.isFinite ⟨_, _, _, ofFloat_byte⟩
    rw [exact_byte, abs_of_nonneg (by linarith)] at hproduct
    exact hproduct (lt_trans (by linarith) byte_lt_overflow)
  have hnonneg := hscaled.ge ⟨_, _, _, ofFloat_zero⟩ (by rw [exact_zero]; linarith)
  have hbound := hscaled.le ⟨_, _, _, ofFloat_byte⟩ (by rw [exact_byte]; linarith)
  rw [exact_zero] at hnonneg
  rw [exact_byte] at hbound
  have hsum : IsNearest (exact (x * 255.0) + 1 / 2) (x * 255.0 + 0.5) := by
    have hsum := isNearest_add hscaled.isFinite ⟨_, _, _, ofFloat_half⟩
    rw [exact_half, abs_of_nonneg (by linarith)] at hsum
    exact hsum (lt_trans (by linarith) byte_lt_overflow)
  exact ⟨hscaled, hnonneg, hbound, hsum, floorFloat_eq hsum.isFinite⟩

/-- Components of the same number have the same byte. -/
theorem UnitValue.roundHalfUp_congr (hx : UnitValue x) (hy : UnitValue y)
    (heq : exact x = exact y) : roundHalfUp (x * 255.0) = roundHalfUp (y * 255.0) := by
  have hsteps := hx.byteSteps
  have hsteps' := hy.byteSteps
  have hscaled := hsteps.scaled
  rw [heq] at hscaled
  have hproduct : exact (x * 255.0) = exact (y * 255.0) := by
    refine hscaled.unique hsteps'.scaled ?_
    have hlow := hy.nonneg
    have hhigh := hy.le_one
    rw [abs_of_nonneg (by linarith)]
    exact lt_trans (by linarith) byte_lt_overflow
  have hsum := hsteps.sum
  rw [hproduct] at hsum
  have hsame : exact (x * 255.0 + 0.5) = exact (y * 255.0 + 0.5) := by
    refine hsum.unique hsteps'.sum ?_
    have hlow := hsteps'.nonneg
    have hhigh := hsteps'.le_byte
    rw [abs_of_nonneg (by linarith)]
    exact lt_trans (by linarith) byte_lt_overflow
  rw [hsteps.floor, hsteps'.floor, hsame]

/-- **Both roundings stay between doubles of few bits**, however they go. -/
theorem UnitValue.sum_bounds (hx : UnitValue x) (low high : ℤ) (hlow : low.natAbs < 2 ^ 52)
    (hhigh : high.natAbs < 2 ^ 52) (hleft : (low / 512 : ℚ) ≤ exact x * 255)
    (hright : exact x * 255 ≤ high / 512) :
    (low / 512 : ℚ) + 1 / 2 ≤ exact (x * 255.0 + 0.5) ∧
      exact (x * 255.0 + 0.5) ≤ high / 512 + 1 / 2 := by
  have hsteps := hx.byteSteps
  -- a rounding does not pass a double, and these are doubles on the grid of 1/512
  have hgrid : ∀ k : ℤ, k.natAbs < Nat.pow 2 53 →
      ∃ z, (ofFloat z).IsFinite ∧ exact z = k / 512 := by
    intro k hk
    obtain ⟨z, hz, hvalue⟩ := exists_scaled hk (e := -9) (by decide) (by decide)
    refine ⟨z, hz, hvalue.trans ?_⟩
    norm_num [div_eq_mul_inv]
  have hhalf : ∀ k : ℤ, ((k + 256 : ℤ) / 512 : ℚ) = k / 512 + 1 / 2 := by
    intro k
    push_cast
    ring
  constructor
  · obtain ⟨z, hz, hvalue⟩ := hgrid low (by simp only [Nat.pow_eq]; omega)
    obtain ⟨w, hw, hvalue'⟩ := hgrid (low + 256) (by simp only [Nat.pow_eq]; omega)
    have hfirst := hsteps.scaled.ge hz (hvalue.trans_le hleft)
    have hsecond := hsteps.sum.ge hw (by rw [hvalue', hhalf, ← hvalue]; linarith)
    rwa [hvalue', hhalf] at hsecond
  · obtain ⟨z, hz, hvalue⟩ := hgrid high (by simp only [Nat.pow_eq]; omega)
    obtain ⟨w, hw, hvalue'⟩ := hgrid (high + 256) (by simp only [Nat.pow_eq]; omega)
    have hfirst := hsteps.scaled.le hz (hright.trans_eq hvalue.symm)
    have hsecond := hsteps.sum.le hw (by rw [hvalue', hhalf, ← hvalue]; linarith)
    rwa [hvalue', hhalf] at hsecond

/-- A component from zero to one is rounded to a byte. -/
theorem UnitValue.exists_roundHalfUp (hx : UnitValue x) :
    ∃ n : ℕ, n ≤ 255 ∧ roundHalfUp (x * 255.0) = .ok (n : ℤ) := by
  obtain ⟨hlow, hhigh⟩ := hx.sum_bounds 0 (255 * 512) (by decide) (by decide)
    (by have h := hx.nonneg; norm_num; linarith) (by have h := hx.le_one; norm_num; linarith)
  norm_num at hlow hhigh
  have hnonneg : 0 ≤ ⌊exact (x * 255.0 + 0.5)⌋ := Int.floor_nonneg.mpr (by linarith)
  have hless : ⌊exact (x * 255.0 + 0.5)⌋ < 256 := Int.floor_lt.mpr (by norm_num; linarith)
  refine ⟨⌊exact (x * 255.0 + 0.5)⌋.toNat, by omega, ?_⟩
  rw [hx.byteSteps.floor, Int.toNat_of_nonneg hnonneg]

/-- **A component near a byte is rounded to it.** -/
theorem UnitValue.roundHalfUp_of_near (hx : UnitValue x) {n : ℕ} (hn : n ≤ 255)
    (hnear : |exact x - n / 255| ≤ 1 / 512) : roundHalfUp (x * 255.0) = .ok (n : ℤ) := by
  obtain ⟨hleft, hright⟩ := abs_le.mp hnear
  obtain ⟨hlow, hhigh⟩ := hx.sum_bounds (512 * n - 255) (512 * n + 255) (by omega)
    (by omega) (by push_cast; linarith) (by push_cast; linarith)
  push_cast at hlow hhigh
  rw [hx.byteSteps.floor]
  -- 255/512 on either side leaves room up to the next whole number
  refine congrArg _ (Int.floor_eq_iff.mpr ⟨?_, ?_⟩)
  · push_cast
    linarith
  · push_cast
    linarith

/-! ## Bytes of any double -/

/-- Limiting a component brings it no farther from what is in range. -/
theorem abs_exact_clampUnit_sub_le (hx : (ofFloat x).IsFinite) {q : ℚ} (hlow : 0 ≤ q)
    (hhigh : q ≤ 1) : |exact (clampUnit x) - q| ≤ |exact x - q| := by
  rw [exact_clampUnit hx]
  rcases le_total (exact x) 1 with hle | hge
  · rw [min_eq_right hle]
    rcases le_total 0 (exact x) with hnonneg | hneg
    · rw [max_eq_right hnonneg]
    · rw [max_eq_left hneg, abs_of_nonpos (by linarith), abs_of_nonpos (by linarith)]
      linarith
  · rw [min_eq_left hge, max_eq_right zero_le_one, abs_of_nonneg (by linarith),
      abs_of_nonneg (by linarith)]
    linarith

/-- A byte is rounded to itself. -/
theorem roundHalfUp_toFloat {n : ℕ} (hn : n ≤ 255) : roundHalfUp n.toFloat = .ok (n : ℤ) := by
  obtain ⟨hfinite, hvalue⟩ := exact_toFloat (n := n) (by simp only [Nat.pow_eq]; omega)
  obtain ⟨z, hz, hhalf⟩ := exists_scaled (k := 2 * n + 1) (e := -1)
    (by simp only [Nat.pow_eq]; omega) (by decide) (by decide)
  have hsum := isNearest_add hfinite ⟨_, _, _, ofFloat_half⟩
  have heq : exact n.toFloat + exact 0.5 = exact z := by
    rw [hvalue, exact_half, hhalf, zpow_neg_one]
    push_cast
    ring
  rw [heq] at hsum
  have hexact := (hsum (abs_exact_lt_overflow hz)).eq_of_exact hz
  rw [roundHalfUp, floorFloat_eq (hsum (abs_exact_lt_overflow hz)).isFinite, hexact, ← heq, hvalue,
    exact_half]
  refine congrArg _ (Int.floor_eq_iff.mpr ⟨?_, ?_⟩)
  · push_cast
    linarith
  · push_cast
    linarith

/-- One byte as a component, up to its rounding. -/
theorem ofFloat_byteUnit : ofFloat (1.0 / 255.0) = .finite false 4521260802379792 (-60) := by
  decide +kernel

/-- A component is near a byte if rounding noise is all that parts them. -/
structure NearByte (x : Float) (n : ℕ) : Prop where
  isFinite : (ofFloat x).IsFinite
  close : |exact x - n / 255| ≤ 1 / 512

/-- **A byte as a component** is from zero to one and near the byte. -/
theorem byte_mul_byteUnit (hx : (ofFloat x).IsFinite) {n : ℕ} (hn : n ≤ 255)
    (hvalue : exact x = n) :
    UnitValue (x * (1.0 / 255.0)) ∧ NearByte (x * (1.0 / 255.0)) n := by
  have hnat : (n : ℚ) ≤ 255 := by exact_mod_cast hn
  have hnonneg : (0 : ℚ) ≤ n := Nat.cast_nonneg n
  have hunit : exact (1.0 / 255.0) = 4521260802379792 / 2 ^ 60 := by
    rw [exact_eq ofFloat_byteUnit]
    norm_num [signed, scaled]
  have hproduct := isNearest_mul hx ⟨_, _, _, ofFloat_byteUnit⟩
  rw [hvalue, hunit] at hproduct
  have hrange : (0 : ℚ) ≤ n * (4521260802379792 / 2 ^ 60) ∧
      (n * (4521260802379792 / 2 ^ 60) : ℚ) ≤ 1 := by
    constructor
    · positivity
    · norm_num
      linarith
  have hsmall : |(n * (4521260802379792 / 2 ^ 60) : ℚ)| ≤ 1 := abs_le.mpr ⟨by linarith, hrange.2⟩
  have hnearest := hproduct (hsmall.trans_lt (lt_trans (by norm_num) byte_lt_overflow))
  have herror := hnearest.abs_sub_le (e := -52) (hsmall.trans_eq (by norm_num)) (by decide)
    (by decide)
  refine ⟨hnearest.unitValue hrange.1 hrange.2, hnearest.isFinite, ?_⟩
  -- the factor is not quite 1/255, and the product is rounded; neither comes near 1/512
  rw [abs_le] at herror ⊢
  norm_num at herror ⊢
  constructor <;> linarith

theorem byteComponent_spec {n : ℕ} (hn : n ≤ 255) :
    UnitValue (byteComponent n) ∧ NearByte (byteComponent n) n := by
  obtain ⟨hfinite, hvalue⟩ := exact_toFloat (n := n) (by simp only [Nat.pow_eq]; omega)
  exact byte_mul_byteUnit hfinite hn hvalue

namespace Rendering

/-- **Every double has a byte.** -/
theorem exists_byte_le (x : Float) : ∃ n : ℕ, n ≤ 255 ∧ byte x = .ok (n : ℤ) := by
  obtain ⟨n, hn, hround⟩ := (unitValue_clampUnit x).exists_roundHalfUp
  exact ⟨n, hn, mapError_eq_ok.mpr hround⟩

/-- **A double near a byte has that byte**, also where it is out of range. -/
theorem byte_of_near {n : ℕ} (hn : n ≤ 255) (hnear : NearByte x n) : byte x = .ok (n : ℤ) := by
  have hunit : (n / 255 : ℚ) ≤ 1 := by
    rw [div_le_one (by norm_num)]
    exact_mod_cast hn
  have hlimited :=
    (abs_exact_clampUnit_sub_le hnear.isFinite (by positivity) hunit).trans hnear.close
  exact mapError_eq_ok.mpr ((unitValue_clampUnit x).roundHalfUp_of_near hn hlimited)

end Rendering

end CssColor
