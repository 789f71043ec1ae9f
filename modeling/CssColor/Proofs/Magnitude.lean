import CssColor.Proofs.Double

/-!
# Magnitudes of doubles

An operation on finite doubles gives an infinity where the exact result is too
large. How large results can become is followed in powers of two:

- `Binary64.IsBelow`: a value is finite and its magnitude is less than a power of
  two. Every finite double is below `2 ^ 1024`.
- `isBelow_mul`, `isBelow_add`: **products and sums of doubles below powers of two
  are below a power of two** as long as that is one that doubles reach.
- `finite_or_infinite_of_mul`: a product of finite doubles may overflow, and is a
  number all the same.
- `isBelow_clampUnit`: what is limited to the range from zero to one is below two,
  whatever it was before.
-/

namespace CssColor

namespace Binary64

open Float.Model (UnpackedFloat Format)
open Float.Model.UnpackedFloat

/-- The value is finite. -/
def IsFinite (b : Binary64) : Prop :=
  ∃ negative m e, b = .finite negative m e

/-- The value is finite and its magnitude is less than `2 ^ n`. -/
def IsBelow (n : Nat) : Binary64 → Prop
  | .finite _ m e => (m.log2 : Int) + e < n
  | .nan => False
  | .infinite _ => False

instance (n : Nat) : DecidablePred (IsBelow n)
  | .finite _ m e => inferInstanceAs (Decidable ((m.log2 : Int) + e < n))
  | .nan => .isFalse id
  | .infinite _ => .isFalse id

variable {x y : Float} {n : Nat}

theorem IsBelow.mono {b : Binary64} {k : Nat} (h : b.IsBelow n) (hk : n ≤ k) : b.IsBelow k := by
  cases b with
  | nan => exact h
  | infinite negative => exact h
  | finite negative m e =>
    show (m.log2 : Int) + e < k
    have hlt : (m.log2 : Int) + e < n := h
    omega

theorem IsBelow.isFinite {b : Binary64} (h : b.IsBelow n) : b.IsFinite := by
  cases b with
  | nan => exact h.elim
  | infinite negative => exact h.elim
  | finite negative m e => exact ⟨negative, m, e, rfl⟩

/-- Every finite double is below `2 ^ 1024`. -/
theorem IsFinite.isBelow (h : (ofFloat x).IsFinite) : (ofFloat x).IsBelow 1024 := by
  obtain ⟨negative, m, e, hvalue⟩ := h
  have hcanonical := canonical_of_ofFloat hvalue
  have hlog : m.log2 ≤ 52 := by
    by_cases hm : m = 0
    · rw [hm, Nat.log2_zero]
      omega
    · have hless := (Nat.log2_lt hm).mpr hcanonical.1.lt
      omega
  rw [hvalue]
  show (m.log2 : Int) + e < 1024
  omega

/-- A double below a power of two is taken apart into a zero or a canonical value. -/
theorem unpack_of_isBelow (h : (ofFloat x).IsBelow n) :
    (∃ s, x.toModel.unpack = .zero s) ∨
      ∃ s m e hm, x.toModel.unpack = .finite s m e hm ∧ Canonical m e ∧ e ≤ 971 ∧
        (m.log2 : Int) + e < n := by
  have hvalue := ofFloat_eq x
  cases hunpack : x.toModel.unpack with
  | notANumber =>
    rw [hvalue, hunpack] at h
    exact h.elim
  | infinity s =>
    rw [hvalue, hunpack] at h
    exact h.elim
  | zero s => exact Or.inl ⟨s, rfl⟩
  | finite s m e hm =>
    rw [hunpack, ofUnpacked] at hvalue
    rw [hvalue] at h
    have hcanonical := canonical_of_ofFloat hvalue
    exact Or.inr ⟨s, m, e, hm, rfl, hcanonical.1, hcanonical.2, h⟩

/-- A finite value but zero is taken apart into its significand and exponent. -/
theorem unpack_of_ofFloat {negative : Bool} {m : Nat} {e : Int}
    (h : ofFloat x = .finite negative m e) (hm : 0 < m) :
    ∃ s, x.toModel.unpack = .finite s m e hm := by
  rw [ofFloat_eq] at h
  cases hunpack : x.toModel.unpack with
  | notANumber =>
    rw [hunpack] at h
    cases h
  | infinity s =>
    rw [hunpack] at h
    cases h
  | zero s =>
    rw [hunpack] at h
    cases h
    exact absurd hm (by decide)
  | finite s m' e' hm' =>
    rw [hunpack] at h
    cases h
    exact ⟨s, rfl⟩

/-- A double is what it is taken apart into, put together. -/
theorem ofFloat_pack_unpack (h : (ofFloat x).IsBelow n) :
    ofFloat ⟨Float.Model.pack x.toModel.unpack⟩ = ofFloat x := by
  rw [ofFloat_eq x]
  rcases unpack_of_isBelow h with ⟨s, hzero⟩ | ⟨s, m, e, hm, hunpack, hcanonical, hlarge, -⟩
  · rw [hzero, ofFloat_pack_zero, ofUnpacked]
  · rw [hunpack, ofFloat_pack_finite s hm hcanonical, if_pos hlarge, ofUnpacked]

/-! ## Rounded results -/

theorem isBelow_pack_zero (s : Sign) (n : Nat) :
    (ofFloat ⟨Float.Model.pack (.zero s)⟩).IsBelow n := by
  rw [ofFloat_pack_zero]
  show ((0 : Nat).log2 : Int) + (-1074) < n
  rw [Nat.log2_zero]
  omega

/-- Rounding may reach the next power of two. -/
theorem isBelow_pack_round (s : Sign) {m : Nat} {e : Int} (he : 52 ≤ m.log2 ∨ e ≤ -1074)
    (hn : (m.log2 : Int) + e < n) (hsmall : n < 1024) :
    (ofFloat ⟨Float.Model.pack (roundWithAccuracy .binary64 s m e .exact)⟩).IsBelow (n + 1) := by
  rcases roundWithAccuracy_cases s m he with hround | ⟨m', e', hm', hround, hcanonical, hgrown⟩
  · rw [hround]
    exact isBelow_pack_zero s (n + 1)
  · have hlarge : e' ≤ 971 := by
      rcases hcanonical.full with hfull | hleast
      · have hlog := (Nat.le_log2 (Nat.ne_of_gt hm')).mpr hfull
        omega
      · omega
    rw [hround, ofFloat_pack_finite s hm' hcanonical, if_pos hlarge]
    show (m'.log2 : Int) + e' < ((n + 1 : Nat) : Int)
    omega

/-! ## Products -/

/-- The place of a product's significand suits its rounding. -/
theorem log2_mul_or_place {m m' : Nat} {e e' : Int} (hm : 0 < m) (hm' : 0 < m')
    (h : Canonical m e) (h' : Canonical m' e') :
    52 ≤ (m * m').log2 ∨ e + e' ≤ -1074 := by
  have hpos : m * m' ≠ 0 := Nat.ne_of_gt (Nat.mul_pos hm hm')
  rcases h.full with hfull | hleast
  · exact Or.inl ((Nat.le_log2 hpos).mpr (Nat.le_trans hfull (Nat.le_mul_of_pos_right m hm')))
  · rcases h'.full with hfull' | hleast'
    · exact Or.inl ((Nat.le_log2 hpos).mpr (Nat.le_trans hfull' (Nat.le_mul_of_pos_left m' hm)))
    · exact Or.inr (by omega)

/-- A product of finite doubles is a zero, or the rounded product of their significands. -/
theorem mul_cases {a b : Nat} (hx : (ofFloat x).IsBelow a) (hy : (ofFloat y).IsBelow b) :
    (∃ s, x * y = ⟨Float.Model.pack (.zero s)⟩) ∨
      ∃ s m e, x * y = ⟨Float.Model.pack (roundWithAccuracy .binary64 s m e .exact)⟩ ∧
        (52 ≤ m.log2 ∨ e ≤ -1074) ∧ (m.log2 : Int) + e < ((a + b : Nat) : Int) := by
  have hmul : x * y = ⟨Float.Model.pack (.mul .binary64 x.toModel.unpack y.toModel.unpack)⟩ := rfl
  rw [hmul]
  rcases unpack_of_isBelow hx with ⟨s, hzero⟩ | ⟨s, m, e, hm, hunpack, hcanonical, -, hlt⟩
  · rcases unpack_of_isBelow hy with ⟨s', hzero'⟩ | ⟨s', m', e', hm', hunpack', -, -, -⟩
    · rw [hzero, hzero']
      exact Or.inl ⟨s * s', rfl⟩
    · rw [hzero, hunpack']
      exact Or.inl ⟨s * s', rfl⟩
  · rcases unpack_of_isBelow hy with ⟨s', hzero'⟩ | ⟨s', m', e', hm', hunpack', hcanonical', -, hlt'⟩
    · rw [hunpack, hzero']
      exact Or.inl ⟨s * s', rfl⟩
    · rw [hunpack, hunpack']
      have hpos : m * m' ≠ 0 := Nat.ne_of_gt (Nat.mul_pos hm hm')
      have hlog : (m * m').log2 < m.log2 + 1 + (m'.log2 + 1) := by
        rw [Nat.log2_lt hpos, Nat.pow_add]
        exact Nat.mul_lt_mul'' Nat.lt_log2_self Nat.lt_log2_self
      exact Or.inr ⟨s * s', m * m', e + e', rfl, log2_mul_or_place hm hm' hcanonical hcanonical',
        by omega⟩

/-- **A product of doubles below powers of two is below their product**, or has just reached it. -/
theorem isBelow_mul {a b : Nat} (hx : (ofFloat x).IsBelow a) (hy : (ofFloat y).IsBelow b)
    (h : a + b < 1024) : (ofFloat (x * y)).IsBelow (a + b + 1) := by
  rcases mul_cases hx hy with ⟨s, hzero⟩ | ⟨s, m, e, hround, hplace, hlt⟩
  · rw [hzero]
    exact isBelow_pack_zero s _
  · rw [hround]
    exact isBelow_pack_round s hplace hlt h

/-- A product of finite doubles is finite or has overflowed. -/
theorem finite_or_infinite_of_mul (hx : (ofFloat x).IsFinite) (hy : (ofFloat y).IsFinite) :
    (ofFloat (x * y)).IsFinite ∨ ∃ negative, ofFloat (x * y) = .infinite negative := by
  rcases mul_cases hx.isBelow hy.isBelow with ⟨s, hzero⟩ | ⟨s, m, e, hround, hplace, -⟩
  · rw [hzero]
    exact Or.inl (isBelow_pack_zero s 0).isFinite
  · rw [hround]
    rcases roundWithAccuracy_cases s m hplace with hrounded | ⟨m', e', hm', hrounded, hcanonical, -⟩
    · rw [hrounded]
      exact Or.inl (isBelow_pack_zero s 0).isFinite
    · rw [hrounded, ofFloat_pack_finite s hm' hcanonical]
      split
      · exact Or.inl ⟨_, _, _, rfl⟩
      · exact Or.inr ⟨_, rfl⟩

/-! ## Sums -/

/-- A value with a large exponent is written with a smaller one before it is rounded. -/
theorem exists_round (s : Sign) {m : Nat} (e : Int) (hm : m ≠ 0) :
    ∃ k : Nat, UnpackedFloat.round .binary64 s m e =
        roundWithAccuracy .binary64 s (m <<< k) (e - k) .exact ∧
      (m <<< k).log2 = m.log2 + k ∧ (52 ≤ (m <<< k).log2 ∨ e - k ≤ -1074) := by
  rw [UnpackedFloat.round, targetExponent_eq, decreaseExponent]
  dsimp only
  generalize hk : (e - max ((m.log2 : Int) + e - 52) (-1074)).toNat = k
  have hlog : (m <<< k).log2 = m.log2 + k := by
    have hne : m <<< k ≠ 0 := by
      rw [Nat.shiftLeft_eq]
      exact Nat.mul_ne_zero hm (Nat.ne_of_gt (Nat.two_pow_pos k))
    rw [Nat.log2_eq_iff hne, Nat.shiftLeft_eq, Nat.pow_add, Nat.add_right_comm, Nat.pow_add]
    exact ⟨Nat.mul_le_mul_right _ (Nat.log2_self_le hm),
      Nat.mul_lt_mul_of_pos_right Nat.lt_log2_self (Nat.two_pow_pos k)⟩
  exact ⟨k, rfl, hlog, by omega⟩

theorem isBelow_round (s : Sign) {m : Nat} {e : Int} (hm : m ≠ 0)
    (hn : (m.log2 : Int) + e < n) (hsmall : n < 1024) :
    (ofFloat ⟨Float.Model.pack (UnpackedFloat.round .binary64 s m e)⟩).IsBelow (n + 1) := by
  obtain ⟨k, hround, hlog, hplace⟩ := exists_round s e hm
  rw [hround]
  refine isBelow_pack_round s hplace ?_ hsmall
  rw [hlog]
  omega

theorem isBelow_normalize {i e : Int} (s : Sign) (hi : i.natAbs < 1 <<< (n - e).toNat)
    (hsmall : n < 1024) :
    (ofFloat ⟨Float.Model.pack (normalize .binary64 i e s)⟩).IsBelow (n + 1) := by
  have hlog : ∀ {m : Nat}, m ≠ 0 → m < 1 <<< (n - e).toNat → (m.log2 : Int) + e < n := by
    intro m hm hlt
    rw [Nat.one_shiftLeft] at hlt
    have hless := (Nat.log2_lt hm).mpr hlt
    omega
  rw [UnpackedFloat.normalize]
  split
  · rename_i hcompare
    have hneg := Int.compare_eq_lt.mp hcompare
    exact isBelow_round .negative (by omega) (hlog (by omega) (by omega)) hsmall
  · exact isBelow_pack_zero s (n + 1)
  · rename_i hcompare
    have hpos := Int.compare_eq_gt.mp hcompare
    exact isBelow_round .positive (by omega) (hlog (by omega) (by omega)) hsmall

/-- A value below a power of two, written with a smaller exponent. -/
theorem shiftLeft_lt_of_log2 {m : Nat} {e k : Int} (h : (m.log2 : Int) + e < n) (hk : k ≤ e) :
    m <<< (e - k).toNat < 1 <<< (n - k).toNat := by
  have hsplit : (n - k).toNat = (n - e).toNat + (e - k).toNat := by omega
  have hm : m < 2 ^ (n - e).toNat :=
    Nat.lt_of_lt_of_le Nat.lt_log2_self (Nat.pow_le_pow_right (by decide) (by omega))
  rw [Nat.shiftLeft_eq, Nat.one_shiftLeft, hsplit, Nat.pow_add]
  exact Nat.mul_lt_mul_of_pos_right hm (Nat.two_pow_pos _)

/-- **A sum of doubles below a power of two is below twice that power**, or has just reached it. -/
theorem isBelow_add (hx : (ofFloat x).IsBelow n) (hy : (ofFloat y).IsBelow n) (h : n < 1023) :
    (ofFloat (x + y)).IsBelow (n + 2) := by
  have hadd : x + y = ⟨Float.Model.pack (.add .binary64 x.toModel.unpack y.toModel.unpack)⟩ := rfl
  rw [hadd]
  rcases unpack_of_isBelow hx with ⟨s, hzero⟩ | ⟨s, m, e, hm, hunpack, -, -, hlt⟩
  · rcases unpack_of_isBelow hy with ⟨s', hzero'⟩ | ⟨s', m', e', hm', hunpack', -, -, -⟩
    · rw [hzero, hzero', UnpackedFloat.add]
      split
      · exact isBelow_pack_zero _ _
      · exact isBelow_pack_zero _ _
    · have hsame : UnpackedFloat.add .binary64 x.toModel.unpack y.toModel.unpack =
          y.toModel.unpack := by
        rw [hzero, hunpack']
        rfl
      rw [hsame, ofFloat_pack_unpack hy]
      exact hy.mono (by omega)
  · rcases unpack_of_isBelow hy with ⟨s', hzero'⟩ | ⟨s', m', e', hm', hunpack', -, -, hlt'⟩
    · have hsame : UnpackedFloat.add .binary64 x.toModel.unpack y.toModel.unpack =
          x.toModel.unpack := by
        rw [hzero', hunpack]
        rfl
      rw [hsame, ofFloat_pack_unpack hx]
      exact hx.mono (by omega)
    · -- both are written with the smaller exponent
      rw [hunpack, hunpack', UnpackedFloat.add]
      have hleft := shiftLeft_lt_of_log2 hlt (Int.min_le_left e e')
      have hright := shiftLeft_lt_of_log2 hlt' (Int.min_le_right e e')
      have hdouble : 1 <<< (((n + 1 : Nat) : Int) - min e e').toNat =
          2 * 1 <<< ((n : Int) - min e e').toNat := by
        have hsucc : (((n + 1 : Nat) : Int) - min e e').toNat =
            ((n : Int) - min e e').toNat + 1 := by
          omega
        rw [hsucc, Nat.shiftLeft_succ]
      refine isBelow_normalize .positive ?_ (by omega)
      rw [hdouble]
      generalize m <<< (e - min e e').toNat = k at *
      generalize m' <<< (e' - min e e').toNat = k' at *
      generalize 1 <<< ((n : Int) - min e e').toNat = limit at *
      cases s <;> cases s' <;> simp only [Sign.apply] <;> omega

/-! ## Comparisons -/

theorem lt_iff_compare (x y : Float) :
    x < y ↔ x.toModel.unpack.compare y.toModel.unpack = some .lt := by
  show decide (x.toModel < y.toModel) = true ↔ _
  rw [decide_eq_true_iff]
  show (x.toModel.unpack.compare y.toModel.unpack == some .lt) = true ↔ _
  rw [beq_iff_eq]

/-- Canonical values are compared by their exponents first. -/
theorem compare_then_eq_lt_iff {m m' : Nat} {e e' : Int} :
    (compare e e').then (compare m m') = .lt ↔ e < e' ∨ e = e' ∧ m < m' := by
  rw [Ordering.then_eq_lt, Int.compare_eq_lt, Int.compare_eq_eq, Nat.compare_eq_lt]

/-- What lies between zero and one is below two. -/
theorem isBelow_of_lt_one (hlow : 0.0 < x) (hhigh : x < 1.0) : (ofFloat x).IsBelow 1 := by
  have hzero : (0.0 : Float).toModel.unpack = .zero .positive := rfl
  have hone : (1.0 : Float).toModel.unpack = .finite .positive (2 ^ 52) (-52) (by decide) := rfl
  have hvalue := ofFloat_eq x
  rw [lt_iff_compare, hzero] at hlow
  rw [lt_iff_compare, hone] at hhigh
  cases hunpack : x.toModel.unpack with
  | notANumber =>
    rw [hunpack] at hlow
    cases hlow
  | infinity s =>
    rw [hunpack] at hlow hhigh
    cases s with
    | negative => cases hlow
    | positive => cases hhigh
  | zero s =>
    rw [hunpack] at hlow
    cases hlow
  | finite s m e hm =>
    rw [hunpack] at hlow hhigh hvalue
    cases s with
    | negative => cases hlow
    | positive =>
      have hcanonical := (canonical_of_ofFloat hvalue).1
      have hlog := (Nat.log2_lt (Nat.ne_of_gt hm)).mpr hcanonical.lt
      have hless := compare_then_eq_lt_iff.mp (Option.some.inj hhigh)
      rw [hvalue]
      show (m.log2 : Int) + e < 1
      omega

/-- What is no number is not below anything. -/
theorem not_lt_of_isNaN (h : x.isNaN = true) : ¬ x < y := by
  have hnan : x.toModel.unpack = .notANumber := by
    have hmodel : x.toModel.unpack.isNaN = true := h
    cases hunpack : x.toModel.unpack with
    | notANumber => rfl
    | infinity s | zero s | finite s m e hm =>
      rw [hunpack] at hmodel
      cases hmodel
  rw [lt_iff_compare, hnan]
  intro hlt
  cases hlt

theorem le_iff_compare (x y : Float) :
    x ≤ y ↔ (x.toModel.unpack.compare y.toModel.unpack).any Ordering.isLE = true := by
  show decide (x.toModel ≤ y.toModel) = true ↔ _
  rw [decide_eq_true_iff]
  rfl

/-- What lies between zero and one, ends included, is finite. -/
theorem isFinite_of_le (hlow : 0.0 ≤ x) (hhigh : x ≤ 1.0) : (ofFloat x).IsFinite := by
  have hone : (1.0 : Float).toModel.unpack = .finite .positive (2 ^ 52) (-52) (by decide) := rfl
  rw [ofFloat_eq]
  rw [le_iff_compare] at hlow hhigh
  cases hunpack : x.toModel.unpack with
  | zero s => exact ⟨_, _, _, rfl⟩
  | finite s m e hm => exact ⟨_, _, _, rfl⟩
  | notANumber =>
    rw [hunpack] at hhigh
    cases hhigh
  | infinity s =>
    -- one end excludes each infinity
    rw [hunpack] at hlow hhigh
    cases s with
    | negative => cases hlow
    | positive => cases hhigh

end Binary64

/-! ## Limited values -/

/-- A value that is limited to the range from zero to one is one of the ends, or was in range. -/
theorem clampUnit_cases (x : Float) :
    clampUnit x = 0.0 ∨ clampUnit x = 1.0 ∨ 0.0 < x ∧ x < 1.0 ∧ clampUnit x = x := by
  rw [clampUnit, clamp, smaller, larger]
  by_cases hlow : (0.0 : Float) < x
  · rw [if_pos hlow]
    by_cases hhigh : x < 1.0
    · rw [if_pos hhigh]
      exact Or.inr (Or.inr ⟨hlow, hhigh, rfl⟩)
    · rw [if_neg hhigh]
      exact Or.inr (Or.inl rfl)
  · rw [if_neg hlow]
    exact Or.inl (if_pos (by decide))

/-- **What is limited to the range from zero to one is below two**, whatever it was. -/
theorem isBelow_clampUnit (x : Float) : (Binary64.ofFloat (clampUnit x)).IsBelow 1 := by
  rcases clampUnit_cases x with hzero | hone | ⟨hlow, hhigh, hkept⟩
  · rw [hzero]
    decide
  · rw [hone]
    decide
  · rw [hkept]
    exact Binary64.isBelow_of_lt_one hlow hhigh

end CssColor
