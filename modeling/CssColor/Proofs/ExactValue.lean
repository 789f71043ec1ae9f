import CssColor.Number.Fixed
import CssColor.Proofs.Magnitude

/-!
# The numbers that doubles stand for

A finite double stands for a rational number. The bits of a double hold a sign,
a significand and an exponent, of which only canonical ones occur; the lemmas
here compare them as numbers.

- `Binary64.toRat`, `exact`: the number itself.
- `scaled_lt_iff`, `scaled_inj`: canonical significands and exponents are ordered
  as the numbers are, so each number has one significand and one exponent.
- `le_or_succ_le`: **no double lies between a significand and the next one**.
- `ofFloat_floatOfMagnitude`: each canonical significand and exponent that is not too large is that
  of a double.
- `abs_lt_fixedLimit_iff`: the magnitude of a double is compared exactly.
-/

namespace CssColor

/-- A power of whole exponent is a quotient of powers of natural ones. -/
theorem zpow_eq_div {b : ℚ} (hb : b ≠ 0) (e : ℤ) : b ^ e = b ^ e.toNat / b ^ (-e).toNat := by
  have hsplit : e = (e.toNat : ℤ) - ((-e).toNat : ℤ) := by omega
  conv_lhs => rw [hsplit, zpow_sub₀ hb, zpow_natCast, zpow_natCast]

/-- A number, or its negative. -/
def signed (negative : Bool) (q : ℚ) : ℚ :=
  if negative then -q else q

section Signed

variable (negative : Bool) (q r : ℚ)

@[simp] theorem signed_zero : signed negative 0 = 0 := by
  cases negative <;> simp [signed]

@[simp] theorem abs_signed : |signed negative q| = |q| := by
  cases negative <;> simp [signed]

theorem signed_not : signed (!negative) q = signed negative (-q) := by
  cases negative <;> simp [signed]

/-- A number and its negative are two, unless it is zero. -/
theorem signed_eq_signed_iff {negative negative' : Bool} {q : ℚ} :
    signed negative q = signed negative' q ↔ negative = negative' ∨ q = 0 := by
  cases negative <;> cases negative' <;> simp [signed, neg_eq_self, self_eq_neg]

theorem signed_sub : signed negative q - signed negative r = signed negative (q - r) := by
  cases negative
  · rfl
  · simp only [signed, if_true]
    ring

end Signed

namespace Binary64

open Float.Model (UnpackedFloat)

/-! ## Values -/

/-- `significand * 2 ^ exponent`. -/
def scaled (significand : ℕ) (exponent : ℤ) : ℚ :=
  significand * 2 ^ exponent

/-- The number that a value stands for; what is not finite counts as zero. -/
def toRat : Binary64 → ℚ
  | .finite negative significand exponent => signed negative (scaled significand exponent)
  | .nan => 0
  | .infinite _ => 0

variable {m m' : ℕ} {e e' : ℤ}

theorem two_zpow_pos (e : ℤ) : (0 : ℚ) < 2 ^ e :=
  zpow_pos (by norm_num) e

theorem scaled_nonneg (m : ℕ) (e : ℤ) : 0 ≤ scaled m e :=
  mul_nonneg (Nat.cast_nonneg m) (two_zpow_pos e).le

theorem scaled_eq_zero_iff : scaled m e = 0 ↔ m = 0 := by
  rw [scaled, mul_eq_zero, Nat.cast_eq_zero, or_iff_left (two_zpow_pos e).ne']

theorem scaled_succ (m : ℕ) (e : ℤ) : scaled (m + 1) e = scaled m e + 2 ^ e := by
  rw [scaled, scaled, Nat.cast_succ, add_one_mul]

theorem scaled_le_scaled_iff : scaled m e ≤ scaled m' e ↔ m ≤ m' := by
  rw [scaled, scaled, mul_le_mul_iff_of_pos_right (two_zpow_pos e), Nat.cast_le]

theorem scaled_lt_scaled_iff : scaled m e < scaled m' e ↔ m < m' := by
  rw [scaled, scaled, mul_lt_mul_iff_of_pos_right (two_zpow_pos e), Nat.cast_lt]

/-- A value can be written with a smaller exponent. -/
theorem scaled_shift (m : ℕ) (e : ℤ) (count : ℕ) :
    scaled (m * 2 ^ count) e = scaled m (e + count) := by
  rw [scaled, scaled, zpow_add₀ (by norm_num), zpow_natCast]
  push_cast
  ring

theorem scaled_of_le (m : ℕ) (h : e' ≤ e) : scaled m e = scaled (m * 2 ^ (e - e').toNat) e' := by
  rw [scaled_shift, Int.toNat_of_nonneg (by omega), add_sub_cancel]

/-- A value is a quotient of whole numbers. -/
theorem scaled_eq_div (m : ℕ) (e : ℤ) : scaled m e = m * 2 ^ e.toNat / 2 ^ (-e).toNat := by
  rw [scaled, zpow_eq_div two_ne_zero, mul_div_assoc]

theorem scaled_two_pow (k : ℕ) (e : ℤ) : scaled (Nat.pow 2 k) e = 2 ^ (k + e) := by
  rw [scaled, zpow_add₀ two_ne_zero, zpow_natCast, Nat.pow_eq, Nat.cast_pow, Nat.cast_ofNat]

theorem abs_toRat (negative : Bool) (m : ℕ) (e : ℤ) :
    |toRat (.finite negative m e)| = scaled m e := by
  rw [toRat, abs_signed, abs_of_nonneg (scaled_nonneg m e)]

/-! ## Canonical values -/

theorem canonical_zero : Canonical 0 (-1074) :=
  ⟨by decide, le_rfl, Or.inr rfl⟩

/-- A value with a smaller exponent is below the canonical ones with a greater one. -/
theorem scaled_lt_of_exponent_lt (hm : m < Nat.pow 2 53) (h' : Canonical m' e') (he : e < e')
    (hleast : -1074 ≤ e) : scaled m e < scaled m' e' := by
  have hfull : Nat.pow 2 52 ≤ m' := h'.full.resolve_right (by omega)
  simp only [Nat.pow_eq] at hm hfull
  rw [scaled_of_le m' he.le, scaled_lt_scaled_iff]
  calc m < 2 ^ 52 * 2 ^ 1 := by omega
    _ ≤ m' * 2 ^ (e' - e).toNat :=
      Nat.mul_le_mul hfull (Nat.pow_le_pow_right (by decide) (by omega))

/-- **Canonical values are ordered as numbers are**: by their exponents first. -/
theorem scaled_lt_iff (h : Canonical m e) (h' : Canonical m' e') :
    scaled m e < scaled m' e' ↔ e < e' ∨ e = e' ∧ m < m' := by
  rcases lt_trichotomy e e' with hlt | rfl | hgt
  · exact iff_of_true (scaled_lt_of_exponent_lt h.lt h' hlt h.least) (Or.inl hlt)
  · rw [scaled_lt_scaled_iff]
    omega
  · have hbelow := scaled_lt_of_exponent_lt h'.lt h hgt h'.least
    exact iff_of_false hbelow.not_gt (by omega)

/-- Each number has one canonical significand and exponent. -/
theorem scaled_inj (h : Canonical m e) (h' : Canonical m' e') (heq : scaled m e = scaled m' e') :
    m = m' ∧ e = e' := by
  have hlt := not_congr (scaled_lt_iff h h')
  have hgt := not_congr (scaled_lt_iff h' h)
  rw [heq] at hlt hgt
  have hnot := hlt.mp (lt_irrefl _)
  have hnot' := hgt.mp (lt_irrefl _)
  omega

/-- **Between a canonical value and the next one of its exponent there is no other.** A smaller
exponent gives values below both, a greater one gives multiples. -/
theorem le_or_succ_le (h : Canonical m e) (hm' : m' < Nat.pow 2 53) (hleast : -1074 ≤ e') :
    scaled m' e' ≤ scaled m e ∨ scaled (m + 1) e ≤ scaled m' e' := by
  rcases lt_or_ge e' e with hlt | hge
  · exact Or.inl (scaled_lt_of_exponent_lt hm' h hlt hleast).le
  · rw [scaled_of_le m' hge, scaled_le_scaled_iff, scaled_le_scaled_iff]
    omega

/-- The next value is canonical again; a full significand moves by one place. -/
theorem Canonical.succ (h : Canonical m e) :
    ∃ m' e', Canonical m' e' ∧ scaled m' e' = scaled (m + 1) e ∧
      (m' = m + 1 ∧ e' = e ∨ m' = Nat.pow 2 52 ∧ e' = e + 1 ∧ m + 1 = Nat.pow 2 53) := by
  have hlt := h.lt
  have hleast := h.least
  have hfull := h.full
  by_cases hcarry : m + 1 < Nat.pow 2 53
  · exact ⟨m + 1, e, ⟨hcarry, hleast, by omega⟩, rfl, Or.inl ⟨rfl, rfl⟩⟩
  · have htop : m + 1 = Nat.pow 2 53 := by omega
    refine ⟨Nat.pow 2 52, e + 1, ⟨by decide, by omega, Or.inl le_rfl⟩, ?_, Or.inr ⟨rfl, rfl, htop⟩⟩
    rw [htop]
    exact (scaled_shift (2 ^ 52) e 1).symm

/-- The value before a canonical one; below a power of two the step is half as long. -/
theorem Canonical.pred (h : Canonical m e) (hm : 0 < m) :
    ∃ k p, Canonical k p ∧ scaled (k + 1) p = scaled m e ∧ (k + 1) % 2 = m % 2 ∧
      (p = if m = Nat.pow 2 52 ∧ -1074 < e then e - 1 else e) := by
  have hlt := h.lt
  have hleast := h.least
  have hfull := h.full
  by_cases hnarrow : m = Nat.pow 2 52 ∧ -1074 < e
  · refine ⟨Nat.pow 2 53 - 1, e - 1, ⟨by decide, by omega, Or.inl (by decide)⟩, ?_, ?_,
      (if_pos hnarrow).symm⟩
    · rw [hnarrow.1]
      have hshift := scaled_shift (2 ^ 52) (e - 1) 1
      rw [Nat.cast_one, sub_add_cancel] at hshift
      exact hshift
    · rw [hnarrow.1]
  · refine ⟨m - 1, e, ⟨by omega, hleast, by omega⟩, ?_, ?_, (if_neg hnarrow).symm⟩
    · rw [Nat.sub_add_cancel hm]
    · rw [Nat.sub_add_cancel hm]

/-- Any significand of 53 bits can be made canonical. -/
theorem exists_canonical (hm : m < Nat.pow 2 53) (hleast : -1074 ≤ e) :
    ∃ m' e', Canonical m' e' ∧ e' ≤ e ∧ scaled m' e' = scaled m e := by
  -- induction on how far the exponent is from the least one
  obtain ⟨count, hcount⟩ : ∃ count : ℕ, e = -1074 + count := ⟨(e + 1074).toNat, by omega⟩
  induction count generalizing m e with
  | zero => exact ⟨m, e, ⟨hm, hleast, Or.inr (by omega)⟩, le_rfl, rfl⟩
  | succ count ih =>
    by_cases hfull : Nat.pow 2 52 ≤ m
    · exact ⟨m, e, ⟨hm, hleast, Or.inl hfull⟩, le_rfl, rfl⟩
    · have hdouble : m * 2 ^ 1 < Nat.pow 2 53 := by
        simp only [Nat.pow_eq] at hfull ⊢
        omega
      obtain ⟨m', e', h', he', heq⟩ := ih hdouble (e := e - 1) (by omega) (by omega)
      refine ⟨m', e', h', by omega, ?_⟩
      rw [heq, scaled_shift, Nat.cast_one, sub_add_cancel]

/-! ## Doubles -/

/-- The sign of a finite double is its first bit. -/
theorem testBit_of_ofFloat {x : Float} {negative : Bool} (hx : ofFloat x = .finite negative m e) :
    x.toBits.toNat.testBit 63 = negative := by
  rw [Nat.testBit_eq_decide_div_mod_eq]
  rw [ofFloat, ofBits] at hx
  split at hx
  · split at hx <;> cases hx
  · split at hx
    · exact (Binary64.finite.inj hx).1
    · exact (Binary64.finite.inj hx).1

/-- A double that is put together from bits has the value that they stand for. -/
theorem ofFloat_ofBits {negative : Bool} (b : UInt64) (hb : ofBits b.toNat = .finite negative m e)
    (h : Canonical m e) (hlarge : e ≤ 971) : ofFloat (Float.ofBits b) = .finite negative m e := by
  have hunpacked : ofUnpacked (UnpackedFloat.unpack .binary64 b.toBitVec) = .finite negative m e :=
    (ofBits_eq b.toBitVec).symm.trans hb
  have hpacked : Float.ofBits b =
      ⟨Float.Model.pack (UnpackedFloat.unpack .binary64 b.toBitVec)⟩ := rfl
  rw [hpacked]
  cases hunpack : UnpackedFloat.unpack .binary64 b.toBitVec with
  | notANumber =>
    rw [hunpack] at hunpacked
    cases hunpacked
  | infinity s =>
    rw [hunpack] at hunpacked
    cases hunpacked
  | zero s =>
    rw [hunpack] at hunpacked
    rw [ofFloat_pack_zero]
    exact hunpacked
  | finite s k p hk =>
    rw [hunpack] at hunpacked
    cases hunpacked
    rw [ofFloat_pack_finite s hk h, if_pos hlarge]

/-- The bits of a canonical value: its exponent counts from the least one, and the leading bit of a
full significand adds one to it. -/
theorem ofBits_magnitude {bits : ℕ} (negative : Bool) (h : Canonical m e) (hlarge : e ≤ 971)
    (hbits : bits = (e + 1074).toNat * Nat.pow 2 52 + m) :
    ofBits (if negative then Nat.pow 2 63 + bits else bits) = .finite negative m e := by
  have hlt := h.lt
  have hleast := h.least
  simp only [Nat.pow_eq] at hlt hbits ⊢
  have hsmall : bits < 2047 * 2 ^ 52 := by omega
  have hsign : decide ((if negative then 2 ^ 63 + bits else bits) / 2 ^ 63 % 2 = 1) = negative := by
    cases negative
    · simp only [Bool.false_eq_true, if_false, decide_eq_false_iff_not]
      omega
    · simp only [if_true, decide_eq_true_eq]
      omega
  have hexponent :
      (if negative then 2 ^ 63 + bits else bits) / 2 ^ 52 % 2 ^ 11 = bits / 2 ^ 52 := by
    split <;> omega
  have hfraction : (if negative then 2 ^ 63 + bits else bits) % 2 ^ 52 = bits % 2 ^ 52 := by
    split <;> omega
  rw [ofBits]
  simp only [Nat.pow_eq]
  rw [hsign, hexponent, hfraction, if_neg (by omega)]
  -- the leading bit is not stored, and only the least exponent does without it
  by_cases hfull : 2 ^ 52 ≤ m
  · have hfield : bits / 2 ^ 52 = (e + 1074).toNat + 1 := by omega
    have hrest : bits % 2 ^ 52 = m - 2 ^ 52 := by omega
    rw [hfield, hrest, if_neg (by omega), Nat.add_sub_cancel' hfull]
    congr 1
    omega
  · have hleast' : e = -1074 := h.full.resolve_left hfull
    have hfield : bits / 2 ^ 52 = 0 := by omega
    have hrest : bits % 2 ^ 52 = m := by omega
    rw [hfield, hrest, if_pos rfl, hleast']

/-- **The canonical values that are not too large are those of the finite doubles.** -/
theorem ofFloat_floatOfMagnitude (negative : Bool) (h : Canonical m e) (hlarge : e ≤ 971) :
    ofFloat (floatOfMagnitude negative ((e + 1074).toNat * Nat.pow 2 52 + m)) =
      .finite negative m e := by
  have hlt := h.lt
  have hleast := h.least
  have hsmall : (e + 1074).toNat * Nat.pow 2 52 + m < 2047 * Nat.pow 2 52 := by
    simp only [Nat.pow_eq] at hlt ⊢
    omega
  rw [floatOfMagnitude, if_pos hsmall]
  refine ofFloat_ofBits _ ?_ h hlarge
  have hword : (if negative then Nat.pow 2 63 + ((e + 1074).toNat * Nat.pow 2 52 + m)
      else (e + 1074).toNat * Nat.pow 2 52 + m) < 2 ^ 64 := by
    simp only [Nat.pow_eq] at hsmall ⊢
    split <;> omega
  rw [UInt64.toNat_ofNat_of_lt' hword]
  exact ofBits_magnitude negative h hlarge rfl

/-! ## Magnitudes -/

section Magnitudes

variable {x : Float} {negative : Bool}

/-- The magnitude of a double has its significand and exponent. -/
theorem ofFloat_abs (hx : ofFloat x = .finite negative m e) :
    ofFloat x.abs = .finite false m e := by
  have habs : x.abs = ⟨Float.Model.pack x.toModel.unpack.abs⟩ := rfl
  have hvalue := ofFloat_eq x
  rw [hx] at hvalue
  cases hunpack : x.toModel.unpack with
  | notANumber =>
    rw [hunpack] at hvalue
    cases hvalue
  | infinity s =>
    rw [hunpack] at hvalue
    cases hvalue
  | zero s =>
    rw [hunpack] at hvalue
    cases hvalue
    rw [habs, hunpack]
    exact ofFloat_pack_zero .positive
  | finite s k p hk =>
    rw [hunpack] at hvalue
    cases hvalue
    have hcanonical := canonical_of_ofFloat hx
    rw [habs, hunpack]
    exact (ofFloat_pack_finite .positive hk hcanonical.1).trans (if_pos hcanonical.2)

/-- A positive value but zero is taken apart into its significand and exponent. -/
theorem unpack_of_positive (hx : ofFloat x = .finite false m e) (hm : 0 < m) :
    x.toModel.unpack = .finite .positive m e hm := by
  obtain ⟨s, hunpack⟩ := unpack_of_ofFloat hx hm
  rw [ofFloat_eq, hunpack] at hx
  cases s with
  | negative => cases hx
  | positive => exact hunpack

/-- Positive doubles are compared as numbers. -/
theorem lt_iff_scaled_lt {y : Float} (hx : ofFloat x = .finite false m e)
    (hy : ofFloat y = .finite false m' e') (hm' : 0 < m') :
    x < y ↔ scaled m e < scaled m' e' := by
  have hcanonical := (canonical_of_ofFloat hx).1
  have hcanonical' := (canonical_of_ofFloat hy).1
  rw [lt_iff_compare, unpack_of_positive hy hm']
  -- zero has no significand to compare
  rcases Nat.eq_zero_or_pos m with rfl | hm
  · have hpos : scaled 0 e < scaled m' e' := by
      rw [scaled_eq_zero_iff.mpr rfl]
      exact (scaled_nonneg m' e').lt_of_ne' (mt scaled_eq_zero_iff.mp hm'.ne')
    refine iff_of_true ?_ hpos
    rw [ofFloat_eq] at hx
    cases hunpack : x.toModel.unpack with
    | notANumber =>
      rw [hunpack] at hx
      cases hx
    | infinity s =>
      rw [hunpack] at hx
      cases hx
    | zero s => rfl
    | finite s k p hk =>
      rw [hunpack] at hx
      obtain ⟨-, rfl, -⟩ := Binary64.finite.inj hx
      exact absurd hk (lt_irrefl 0)
  · rw [unpack_of_positive hx hm, scaled_lt_iff hcanonical hcanonical', ← compare_then_eq_lt_iff]
    exact Option.some_inj

end Magnitudes

end Binary64

/-! ## Finite doubles as numbers -/

/-- The number that a double stands for. -/
def exact (x : Float) : ℚ :=
  (Binary64.ofFloat x).toRat

theorem ofFloat_fixedLimit :
    Binary64.ofFloat fixedLimit = .finite false 7629394531250000 17 := by
  have hunpack : fixedLimit.toModel.unpack = .finite .positive 7629394531250000 17 (by decide) :=
    rfl
  rw [Binary64.ofFloat_eq, hunpack]
  rfl

theorem scaled_limit : Binary64.scaled 7629394531250000 17 = 10 ^ 21 := by
  norm_num [Binary64.scaled]

/-- **The magnitude of a finite double is compared exactly** with the limit of fixed places. -/
theorem abs_lt_fixedLimit_iff {x : Float} (hx : (Binary64.ofFloat x).IsFinite) :
    x.abs < fixedLimit ↔ |exact x| < 10 ^ 21 := by
  obtain ⟨negative, m, e, hvalue⟩ := hx
  rw [Binary64.lt_iff_scaled_lt (Binary64.ofFloat_abs hvalue) ofFloat_fixedLimit (by decide), exact,
    hvalue, Binary64.abs_toRat, scaled_limit]

end CssColor
