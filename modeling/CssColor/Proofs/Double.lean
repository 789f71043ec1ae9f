import CssColor.Number.Rounding
import Mathlib

/-!
# The arithmetic of doubles

An operation on doubles takes them apart, works on the exact values, rounds the
result to a significand of 53 bits and packs it into 64 bits again. The library
reads a double off its bits (`Binary64.ofFloat`). Here the two views are brought
together:

- `ofBits_eq`, `ofFloat_eq`: what is read off the bits is what the arithmetic works on.
- `Canonical`: each finite value but zero has one significand and exponent.
- `ofFloat_pack_finite`: **packing loses nothing but too large exponents**, which
  become an infinity.
- `roundedMantissa_shiftRight`, `roundWithAccuracy_bits`: **a value is rounded once**,
  as the quotient that is left of its significand.
- `roundWithAccuracy_cases`: rounding gives a canonical value, of a magnitude that
  has at most reached the next power of two.
-/

namespace CssColor

namespace Binary64

open Float.Model (UnpackedFloat Format totalExponent)
open Float.Model.UnpackedFloat

/-! ## The fields of a double -/

/-- The value that the arithmetic of doubles works on. -/
def ofUnpacked : UnpackedFloat → Binary64
  | .notANumber => .nan
  | .infinity s => .infinite (s == .negative)
  | .zero s => .finite (s == .negative) 0 (-1074)
  | .finite s m e _ => .finite (s == .negative) m e

section Fields

variable (b : BitVec 64)

theorem toNat_unpackMantissa :
    (@unpackMantissa .binary64 b).toNat = b.toNat % Nat.pow 2 52 := by
  simp [unpackMantissa, BitVec.extractLsb, BitVec.extractLsb']

theorem toNat_unpackExponent :
    (@unpackExponent .binary64 b).toNat = b.toNat / Nat.pow 2 52 % Nat.pow 2 11 := by
  simp [unpackExponent, BitVec.extractLsb, BitVec.extractLsb', Nat.shiftRight_eq_div_pow]

theorem ofBitVec_unpackSign :
    (Sign.ofBitVec (@unpackSign .binary64 b) == .negative) =
      decide (b.toNat / Nat.pow 2 63 % 2 = 1) := by
  have hbit : (@unpackSign .binary64 b).toNat = b.toNat / Nat.pow 2 63 % 2 := by
    simp [unpackSign, BitVec.extractLsb, BitVec.extractLsb', Nat.shiftRight_eq_div_pow]
  rw [← hbit]
  generalize @unpackSign .binary64 b = sign
  revert sign
  decide

end Fields

theorem toNat_append_one (fraction : BitVec 52) :
    (1#1 ++ fraction).toNat = Nat.pow 2 52 + fraction.toNat := by
  rw [BitVec.toNat_append, ← Nat.shiftLeft_add_eq_or_of_lt fraction.isLt]
  rfl

/-- What is read off 64 bits is the value that arithmetic takes from them. -/
theorem ofBits_eq (b : BitVec 64) :
    ofBits b.toNat = ofUnpacked (UnpackedFloat.unpack .binary64 b) := by
  rw [ofBits, UnpackedFloat.unpack, ← toNat_unpackMantissa b, ← toNat_unpackExponent b,
    ← ofBitVec_unpackSign b]
  -- the same three questions are asked of the fields as numbers and as words
  by_cases htop : (@unpackExponent .binary64 b).toNat = 2047
  · have htop' : @unpackExponent .binary64 b = -1#11 := BitVec.eq_of_toNat_eq htop
    rw [if_pos htop, if_pos htop']
    by_cases hzero : (@unpackMantissa .binary64 b).toNat = 0
    · have hzero' : @unpackMantissa .binary64 b = 0#52 := BitVec.eq_of_toNat_eq hzero
      rw [if_pos hzero, if_pos hzero', ofUnpacked]
    · have hzero' : @unpackMantissa .binary64 b ≠ 0#52 :=
        fun h => hzero (by rw [h]; rfl)
      rw [if_neg hzero, if_neg hzero', ofUnpacked]
  · have htop' : @unpackExponent .binary64 b ≠ -1#11 := fun h => htop (by rw [h]; rfl)
    rw [if_neg htop, if_neg htop']
    by_cases hsub : (@unpackExponent .binary64 b).toNat = 0
    · have hsub' : @unpackExponent .binary64 b = 0#11 := BitVec.eq_of_toNat_eq hsub
      rw [if_pos hsub, if_pos hsub']
      by_cases hzero : (@unpackMantissa .binary64 b).toNat = 0
      · have hzero' : @unpackMantissa .binary64 b = 0#52 := BitVec.eq_of_toNat_eq hzero
        rw [dif_pos hzero', ofUnpacked, hzero]
      · have hzero' : @unpackMantissa .binary64 b ≠ 0#52 :=
          fun h => hzero (by rw [h]; rfl)
        rw [dif_neg hzero', ofUnpacked, hsub]
        rfl
    · have hsub' : @unpackExponent .binary64 b ≠ 0#11 := fun h => hsub (by rw [h]; rfl)
      rw [if_neg hsub, if_neg hsub', ofUnpacked, toNat_append_one]
      rfl

/-- What is read off the bits of a double is the value that its arithmetic works on. -/
theorem ofFloat_eq (x : Float) : ofFloat x = ofUnpacked x.toModel.unpack :=
  ofBits_eq x.toModel.toBits.toBitVec

/-! ## Canonical values -/

/-- A significand and an exponent as doubles have them: the significand is full unless the
exponent is the least one. -/
structure Canonical (significand : Nat) (exponent : Int) : Prop where
  lt : significand < Nat.pow 2 53
  least : -1074 ≤ exponent
  full : Nat.pow 2 52 ≤ significand ∨ exponent = -1074

/-- Every finite double is canonical, and its exponent is at most 971. -/
theorem canonical_of_ofFloat {x : Float} {negative : Bool} {m : Nat} {e : Int}
    (h : ofFloat x = .finite negative m e) : Canonical m e ∧ e ≤ 971 := by
  have hfraction : ∀ n : Nat, n % Nat.pow 2 52 < Nat.pow 2 52 := fun n => Nat.mod_lt _ (by decide)
  have hfield : ∀ n : Nat, n % Nat.pow 2 11 < Nat.pow 2 11 := fun n => Nat.mod_lt _ (by decide)
  rw [ofFloat, ofBits] at h
  split at h
  · split at h <;> cases h
  · rename_i htop
    split at h
    · cases h
      exact ⟨⟨Nat.lt_trans (hfraction _) (by decide), by decide, Or.inr rfl⟩, by decide⟩
    · rename_i hsub
      cases h
      have hexponent := hfield (x.toBits.toNat / Nat.pow 2 52)
      have hrest := hfraction x.toBits.toNat
      simp only [Nat.pow_eq, Nat.reducePow] at htop hsub hexponent hrest ⊢
      refine ⟨⟨?_, ?_, Or.inl (Nat.le_add_right _ _)⟩, ?_⟩
      · simp only [Nat.pow_eq, Nat.reducePow]
        omega
      · omega
      · omega

/-! ## Packing -/

theorem toNat_packComponents (s : Sign) (exponent : BitVec 11) (fraction : BitVec 52) :
    (packComponents .binary64 s exponent fraction).toNat =
      s.toBitVec.toNat * Nat.pow 2 63 + exponent.toNat * Nat.pow 2 52 + fraction.toNat := by
  have happend : ∀ {v w : Nat} (a : BitVec v) (b : BitVec w),
      (a ++ b).toNat = a.toNat * 2 ^ w + b.toNat := by
    intro v w a b
    rw [BitVec.toNat_append, ← Nat.shiftLeft_add_eq_or_of_lt b.isLt, Nat.shiftLeft_eq]
  rw [packComponents, happend, happend]
  simp only [Nat.pow_eq]
  omega

/-- The fields of a double are those that it is put together from. -/
theorem ofBits_components (s : Sign) (exponent : BitVec 11) (fraction : BitVec 52) :
    ofBits (packComponents .binary64 s exponent fraction).toNat =
      if exponent.toNat = 2047 then
        if fraction.toNat = 0 then .infinite (s == .negative) else .nan
      else if exponent.toNat = 0 then .finite (s == .negative) fraction.toNat (-1074)
      else
        .finite (s == .negative) (Nat.pow 2 52 + fraction.toNat)
          ((exponent.toNat : Int) - 1075) := by
  have hexponent := exponent.isLt
  have hfraction := fraction.isLt
  have hsign : s.toBitVec.toNat < 2 := s.toBitVec.isLt
  have hnegative : (s == .negative) = decide (s.toBitVec.toNat = 1) := by
    cases s <;> rfl
  rw [toNat_packComponents, hnegative, ofBits]
  simp only [Nat.pow_eq]
  generalize exponent.toNat = e at *
  generalize fraction.toNat = m at *
  generalize s.toBitVec.toNat = b at *
  have htop : (b * 2 ^ 63 + e * 2 ^ 52 + m) / 2 ^ 63 % 2 = b := by omega
  have hmiddle : (b * 2 ^ 63 + e * 2 ^ 52 + m) / 2 ^ 52 % 2 ^ 11 = e := by omega
  have hrest : (b * 2 ^ 63 + e * 2 ^ 52 + m) % 2 ^ 52 = m := by omega
  simp only [htop, hmiddle, hrest]

theorem ofFloat_pack_zero (s : Sign) :
    ofFloat ⟨Float.Model.pack (.zero s)⟩ = .finite (s == .negative) 0 (-1074) := by
  cases s <;> rfl

/-- **Packing keeps a canonical value** unless its exponent is too large. -/
theorem ofFloat_pack_finite (s : Sign) {m : Nat} {e : Int} (hm : 0 < m) (h : Canonical m e) :
    ofFloat ⟨Float.Model.pack (.finite s m e hm)⟩ =
      if e ≤ 971 then .finite (s == .negative) m e else .infinite (s == .negative) := by
  have hlt := h.lt
  have hleast := h.least
  have hbits : (Float.ofModel (Float.Model.pack (.finite s m e hm))).toBits.toNat =
    (UnpackedFloat.pack .binary64 (.finite s m e hm)).toNat := rfl
  have hbias : e + (Format.binary64.exponentBias : Int) +
      (Format.binary64.mantissaBitsWithoutImplicit : Int) = e + 1075 := by
    change e + 1023 + 52 = e + 1075
    omega
  rw [ofFloat, hbits, UnpackedFloat.pack]
  simp only [hbias]
  by_cases hlarge : e ≤ 971
  · have hroom : ¬ 2 ^ Format.binary64.exponentBits ≤ (e + 1075).toNat + 1 := by
      change ¬ 2 ^ 11 ≤ _
      omega
    rw [if_pos hlarge, if_neg hroom]
    by_cases hfull : Nat.pow 2 52 ≤ m
    · have hlog : m.log2 + 1 = Format.binary64.mantissaBits := by
        have htop : m.log2 = 52 := (Nat.log2_eq_iff (by omega)).mpr ⟨hfull, hlt⟩
        rw [htop]
        rfl
      have hexponent : (BitVec.ofNat 11 (e + 1075).toNat).toNat = (e + 1075).toNat := by
        rw [BitVec.toNat_ofNat]
        omega
      -- the leading bit is not stored
      have hfraction : Nat.pow 2 52 + (BitVec.ofNat 52 m).toNat = m := by
        rw [BitVec.toNat_ofNat]
        simp only [Nat.pow_eq] at hfull hlt ⊢
        omega
      rw [if_pos hlog, ofBits_components]
      change (if (BitVec.ofNat 11 (e + 1075).toNat).toNat = 2047 then _
        else if (BitVec.ofNat 11 (e + 1075).toNat).toNat = 0 then _
        else Binary64.finite _ (Nat.pow 2 52 + (BitVec.ofNat 52 m).toNat)
          (((BitVec.ofNat 11 (e + 1075).toNat).toNat : Int) - 1075)) = _
      rw [hexponent, hfraction, if_neg (by omega), if_neg (by omega)]
      congr 1
      omega
    · have hlog : ¬ m.log2 + 1 = Format.binary64.mantissaBits := by
        have hshort : m.log2 < 52 := (Nat.log2_lt (by omega)).mpr (by simpa using hfull)
        change ¬ m.log2 + 1 = 53
        omega
      have hfraction : (BitVec.ofNat 52 m).toNat = m := by
        rw [BitVec.toNat_ofNat]
        simp only [Nat.pow_eq] at hfull
        omega
      have hsub : e = -1074 := h.full.resolve_left hfull
      rw [if_neg hlog, ofBits_components]
      change Binary64.finite _ (BitVec.ofNat 52 m).toNat (-1074) = _
      rw [hfraction, hsub]
  · have hroom : 2 ^ Format.binary64.exponentBits ≤ (e + 1075).toNat + 1 := by
      change 2 ^ 11 ≤ _
      omega
    rw [if_neg hlarge, if_pos hroom, packedInfinity, ofBits_components]
    rfl

/-! ## Rounding -/

/-- How many bits of a significand a double has no room for. -/
def excess (m : Nat) (e : Int) : Nat :=
  (max ((m.log2 : Int) + e - 52) (-1074) - e).toNat

/-- What is moved out of a significand is compared with a half: the first bit tells whether it is at
least a half, the second whether it is neither nothing nor a half. -/
theorem exact_shiftRight (m count : Nat) :
    ExtendedMantissa.ofMantissaAndAccuracy m .exact >>> count =
      ⟨m / 2 ^ count, decide (2 ^ count ≤ 2 * (m % 2 ^ count)),
        decide (2 * (m % 2 ^ count) ≠ 0 ∧ 2 * (m % 2 ^ count) ≠ 2 ^ count)⟩ := by
  induction count with
  | zero =>
    show (⟨m, false, false⟩ : ExtendedMantissa) = _
    simp [Nat.mod_one]
  | succ count ih =>
    have hstep : ExtendedMantissa.ofMantissaAndAccuracy m .exact >>> (count + 1) =
        (ExtendedMantissa.ofMantissaAndAccuracy m .exact >>> count).shiftRightOne := rfl
    have hrest : m % 2 ^ (count + 1) = m % 2 ^ count + 2 ^ count * (m / 2 ^ count % 2) := by
      rw [Nat.pow_succ, Nat.mod_mul]
    have hless := Nat.mod_lt m (Nat.two_pow_pos count)
    rw [hstep, ih, ExtendedMantissa.shiftRightOne, hrest, Nat.pow_succ, ← Nat.div_div_eq_div_mul]
    dsimp only
    generalize m / 2 ^ count = quotient
    generalize m % 2 ^ count = rest at hless ⊢
    generalize 2 ^ count = unit at hless ⊢
    rw [← Bool.decide_or]
    rcases Nat.mod_two_eq_zero_or_one quotient with hbit | hbit
    all_goals
      rw [hbit]
      congr 1
      · rw [Bool.eq_iff_iff, bne_iff_ne, decide_eq_true_iff]
        omega
      · exact decide_eq_decide.mpr (by omega)

/-- **A significand that is moved is rounded as the quotient that is left.** -/
theorem roundedMantissa_shiftRight (m count : Nat) :
    (ExtendedMantissa.ofMantissaAndAccuracy m .exact >>> count).roundedMantissa =
      roundQuotientEven m (2 ^ count) := by
  rw [exact_shiftRight, ExtendedMantissa.roundedMantissa, roundQuotientEven]
  generalize m / 2 ^ count = quotient
  generalize 2 * (m % 2 ^ count) = twice
  generalize 2 ^ count = unit
  by_cases hhalf : unit ≤ twice
  · by_cases hmore : twice ≠ 0 ∧ twice ≠ unit
    · rw [decide_eq_true hhalf, decide_eq_true hmore, if_pos (Or.inl (by omega))]
      rfl
    · rw [decide_eq_true hhalf, decide_eq_false hmore]
      show quotient + quotient % 2 = _
      split <;> omega
  · have hless : ¬ (unit < twice ∨ twice = unit ∧ quotient % 2 = 1) := by omega
    rw [decide_eq_false hhalf, if_neg hless]
    cases decide (twice ≠ 0 ∧ twice ≠ unit) <;> rfl

theorem targetExponent_eq (m : Nat) (e : Int) :
    Format.binary64.targetExponent (totalExponent m e) =
      max ((m.log2 : Int) + e - 52) (-1074) := by
  have hbits : (Format.binary64.mantissaBits : Int) = 53 := rfl
  have hleast : Format.binary64.minExponent = -1074 := rfl
  rw [Format.targetExponent, totalExponent, hbits, hleast]
  omega

/-- A significand is moved until it has 53 bits or the exponent is the least one. -/
theorem shift_exact (m : Nat) (e : Int) :
    shiftToTargetExponent .binary64 m e .exact =
      (ExtendedMantissa.ofMantissaAndAccuracy m .exact >>> excess m e, e + (excess m e : Int)) := by
  rw [shiftToTargetExponent, shiftToExponent, targetExponent_eq]
  rfl

/-- What is left of a significand is canonical, unless the place is wrong. -/
theorem canonical_shift (m : Nat) {e : Int} (he : 52 ≤ m.log2 ∨ e ≤ -1074) :
    Canonical (m / 2 ^ excess m e) (e + excess m e) := by
  rw [excess]
  generalize hk : (max ((m.log2 : Int) + e - 52) (-1074) - e).toNat = k
  have htarget : e + k = max ((m.log2 : Int) + e - 52) (-1074) := by omega
  refine ⟨?_, by omega, ?_⟩
  · rw [Nat.div_lt_iff_lt_mul (Nat.two_pow_pos k)]
    show m < 2 ^ 53 * 2 ^ k
    rw [← Nat.pow_add]
    exact Nat.lt_of_lt_of_le Nat.lt_log2_self (Nat.pow_le_pow_right (by decide) (by omega))
  · by_cases hleast : e + k = -1074
    · exact Or.inr hleast
    · have hm : m ≠ 0 := by
        rintro rfl
        simp only [Nat.log2_zero] at he htarget
        omega
      have hlog : 52 + k = m.log2 := by omega
      rw [Nat.le_div_iff_mul_le (Nat.two_pow_pos k)]
      refine Or.inl (Nat.le_trans (Nat.le_of_eq ?_) (Nat.log2_self_le hm))
      rw [← hlog, Nat.pow_add]

/-- The quotient is rounded to one of its neighbours. -/
theorem roundQuotientEven_bounds (num den : Nat) :
    num / den ≤ roundQuotientEven num den ∧ roundQuotientEven num den ≤ num / den + 1 := by
  rw [roundQuotientEven]
  split <;> omega

/-- **A value is rounded once**: the significand is moved and rounded as a quotient. Rounding up may
fill it, and then it moves by one more place; the bits of the result are the same. -/
theorem roundWithAccuracy_bits (s : Sign) (m : Nat) {e : Int} (he : 52 ≤ m.log2 ∨ e ≤ -1074) :
    ∃ m' e', Canonical m' e' ∧
      (e + excess m e + 1074).toNat * Nat.pow 2 52 + roundQuotientEven m (2 ^ excess m e) =
        (e' + 1074).toNat * Nat.pow 2 52 + m' ∧
      (m' = 0 ∧ roundWithAccuracy .binary64 s m e .exact = .zero s ∨
        ∃ hm', roundWithAccuracy .binary64 s m e .exact = .finite s m' e' hm') := by
  have hcanonical := canonical_shift m he
  have hrounded := roundQuotientEven_bounds m (2 ^ excess m e)
  rw [roundWithAccuracy, shift_exact]
  dsimp only
  rw [roundedMantissa_shiftRight]
  generalize m / 2 ^ excess m e = quotient at hcanonical hrounded
  generalize e + (excess m e : Int) = place at hcanonical ⊢
  generalize roundQuotientEven m (2 ^ excess m e) = r at hrounded ⊢
  obtain ⟨hlt, hleast, hfull⟩ := hcanonical
  simp only [Nat.pow_eq] at hlt hfull
  rw [shift_exact, exact_shiftRight]
  dsimp only
  -- rounding up may fill the significand, which then moves by one more place
  by_cases hcarry : r < 2 ^ 53
  · have hlog : r = 0 ∨ r.log2 < 53 := by
      by_cases hr : r = 0
      · exact Or.inl hr
      · exact Or.inr ((Nat.log2_lt hr).mpr hcarry)
    have hstay : excess r place = 0 := by
      rw [excess]
      rcases hlog with rfl | hlog
      · rw [Nat.log2_zero]
        omega
      · omega
    rw [hstay, Nat.pow_zero, Nat.div_one, Int.natCast_zero, Int.add_zero]
    refine ⟨r, place, ⟨hcarry, hleast, ?_⟩, rfl, ?_⟩
    · simp only [Nat.pow_eq]
      omega
    · split
      · exact Or.inl ⟨‹r = 0›, rfl⟩
      · exact Or.inr ⟨Nat.pos_of_ne_zero ‹_›, rfl⟩
  · obtain rfl : r = 2 ^ 53 := by omega
    have hmove : excess (2 ^ 53) place = 1 := by
      rw [excess, Nat.log2_two_pow]
      omega
    rw [hmove]
    refine ⟨2 ^ 52, place + 1, ⟨by decide, by omega, Or.inl (Nat.le_refl _)⟩, ?_,
      Or.inr ⟨by decide, rfl⟩⟩
    simp only [Nat.pow_eq]
    omega

/-- **A rounded value is zero or canonical.** -/
theorem roundWithAccuracy_cases (s : Sign) (m : Nat) {e : Int}
    (he : 52 ≤ m.log2 ∨ e ≤ -1074) :
    roundWithAccuracy .binary64 s m e .exact = .zero s ∨
      ∃ m' e' hm', roundWithAccuracy .binary64 s m e .exact = .finite s m' e' hm' ∧
        Canonical m' e' ∧ (m'.log2 : Int) + e' ≤ max ((m.log2 : Int) + e + 1) 0 := by
  obtain ⟨m', e', hcanonical, hbits, ⟨-, hzero⟩ | ⟨hm', hround⟩⟩ := roundWithAccuracy_bits s m he
  · exact Or.inl hzero
  · refine Or.inr ⟨m', e', hm', hround, hcanonical, ?_⟩
    have hlog := (Nat.log2_lt (Nat.ne_of_gt hm')).mpr hcanonical.lt
    have hrounded := roundQuotientEven_bounds m (2 ^ excess m e)
    have hplace : e + excess m e = max ((m.log2 : Int) + e - 52) (-1074) := by
      rw [excess]
      omega
    obtain ⟨hlt, hleast, hfull⟩ := canonical_shift m he
    have hleast' := hcanonical.least
    have hfull' := hcanonical.full
    simp only [Nat.pow_eq] at hlt hfull hbits hfull'
    omega

end Binary64

end CssColor
