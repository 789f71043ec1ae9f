import CssColor.Proofs.ByteRounding

/-!
# Rounding by adding a half

The whole number nearest to a double is found by adding a half and going down to
the next whole number. The sum is itself rounded to a double, and may be rounded
up to a whole number that the exact sum does not reach.

- `OnGrid`: a finite double as a whole number of 53 bits times a power of two.
- `OnGrid.exact_add_half_of_lt`: **the sum is exact if it fits on the grid of its
  double**.
- `OnGrid.floor_fractional`: below `2 ^ 52` the sum stays under the next whole
  number, but for one double.
- `OnGrid.floor_whole`: from `2 ^ 52` on the sum is in the middle of two whole
  numbers, and goes to the even one.
- `roundHalfUp_isNearestWhole_iff`: **which doubles are rounded to the nearest
  whole number**, and where the others go.
-/

namespace CssColor

open Binary64

/-- A whole number is nearest to a number; of two as near it is the greater one. -/
def IsNearestWhole (n : ℤ) (q : ℚ) : Prop :=
  n - 1 / 2 ≤ q ∧ q < n + 1 / 2

/-- Where the sum with a half is rounded past the whole number below it: at the last double below a
half, and at odd numbers that have no double a half above them. -/
def OvershootsHalf (q : ℚ) : Prop :=
  q = 1 / 2 - 1 / 2 ^ 54 ∨ ∃ n : ℤ, Odd n ∧ 2 ^ 52 < |n| ∧ q = n

theorem isNearestWhole_iff {n : ℤ} {q : ℚ} : IsNearestWhole n q ↔ ⌊q + 1 / 2⌋ = n := by
  rw [IsNearestWhole, Int.floor_eq_iff]
  constructor
  · rintro ⟨hlow, hhigh⟩
    constructor <;> linarith
  · rintro ⟨hlow, hhigh⟩
    constructor <;> linarith

theorem floor_add_half (n : ℤ) : ⌊(n : ℚ) + 1 / 2⌋ = n := by
  rw [Int.floor_eq_iff]
  constructor <;> linarith

/-! ## The grid of a double -/

section Grid

variable {x y : Float} {k e : ℤ}

/-- A finite double as a whole number times a power of two. -/
structure OnGrid (x : Float) (k e : ℤ) : Prop where
  exact_eq : exact x = k * 2 ^ e
  significand_eq : (ofFloat x).significand = k.natAbs
  lt : k.natAbs < Nat.pow 2 53
  least : -1074 ≤ e
  large : e ≤ 971
  full : Nat.pow 2 52 ≤ k.natAbs ∨ e = -1074

/-- **Every finite double has a grid.** -/
theorem exists_grid (hx : (ofFloat x).IsFinite) : ∃ k e, OnGrid x k e := by
  obtain ⟨negative, m, e, hx⟩ := hx
  obtain ⟨⟨hlt, hleast, hfull⟩, hlarge⟩ := canonical_of_ofFloat hx
  have hsignificand : (ofFloat x).significand = m := by rw [hx, significand]
  cases negative with
  | false =>
    refine ⟨m, e, ?_, hsignificand, hlt, hleast, hlarge, hfull⟩
    rw [CssColor.exact_eq hx, signed, if_neg Bool.false_ne_true, scaled, Int.cast_natCast]
  | true =>
    refine ⟨-m, e, ?_, by rwa [Int.natAbs_neg], by rwa [Int.natAbs_neg], hleast, hlarge,
      by rwa [Int.natAbs_neg]⟩
    rw [CssColor.exact_eq hx, signed, if_pos rfl, scaled, Int.cast_neg, Int.cast_natCast, neg_mul]

theorem OnGrid.abs_exact (h : OnGrid x k e) : |exact x| = k.natAbs * 2 ^ e := by
  rw [h.exact_eq, abs_mul, abs_of_pos (two_zpow_pos e), Nat.cast_natAbs, Int.cast_abs]

theorem OnGrid.abs_exact_le (h : OnGrid x k e) : |exact x| ≤ (2 ^ 53 - 1) * 2 ^ e := by
  have hlt := h.lt
  have hfew : (k.natAbs : ℚ) + 1 ≤ 2 ^ 53 := by exact_mod_cast hlt
  rw [h.abs_exact]
  exact mul_le_mul_of_nonneg_right (by linarith) (two_zpow_pos e).le

theorem OnGrid.abs_exact_lt (h : OnGrid x k e) : |exact x| < 2 ^ 53 * 2 ^ e :=
  h.abs_exact_le.trans_lt (mul_lt_mul_of_pos_right (by norm_num) (two_zpow_pos e))

/-- What has a fraction is below `2 ^ 52`, by a half at least. -/
theorem OnGrid.abs_exact_le_of_fractional (h : OnGrid x k e) (he : e < 0) :
    |exact x| ≤ 2 ^ 52 - 1 / 2 := by
  have hunit : (2 : ℚ) ^ e ≤ 2 ^ (-1 : ℤ) := zpow_le_zpow_right₀ one_le_two (by omega)
  calc |exact x| ≤ (2 ^ 53 - 1) * 2 ^ e := h.abs_exact_le
    _ ≤ (2 ^ 53 - 1) * 2 ^ (-1 : ℤ) := mul_le_mul_of_nonneg_left hunit (by norm_num)
    _ = 2 ^ 52 - 1 / 2 := by norm_num

/-- The grid of a double is settled by the powers of two that it lies between. -/
theorem OnGrid.exponent_eq (h : OnGrid x k e) {p : ℤ} (hp : -1022 ≤ p) (hlow : 2 ^ p ≤ |exact x|)
    (hhigh : |exact x| < 2 ^ (p + 1)) : e = p - 52 := by
  have habove : p - 52 ≤ e := by
    by_contra hless
    have hpower : (2 : ℚ) ^ 53 * 2 ^ e = 2 ^ (53 + e) := (zpow_add₀ two_ne_zero 53 e).symm
    have hbound : |exact x| < 2 ^ (53 + e) := hpower ▸ h.abs_exact_lt
    have horder : (2 : ℚ) ^ (53 + e) ≤ 2 ^ p := zpow_le_zpow_right₀ one_le_two (by omega)
    linarith
  have hbelow : e ≤ p - 52 := by
    by_contra hmore
    have hfull : (2 ^ 52 : ℚ) ≤ k.natAbs := by exact_mod_cast h.full.resolve_right (by omega)
    have hpower : (2 : ℚ) ^ 52 * 2 ^ e = 2 ^ (52 + e) := (zpow_add₀ two_ne_zero 52 e).symm
    have hbound : (2 : ℚ) ^ (52 + e) ≤ |exact x| := by
      rw [← hpower, h.abs_exact]
      exact mul_le_mul_of_nonneg_right hfull (two_zpow_pos e).le
    have horder : (2 : ℚ) ^ (p + 1) ≤ 2 ^ (52 + e) := zpow_le_zpow_right₀ one_le_two (by omega)
    linarith
  exact le_antisymm hbelow habove

/-- A double on a grid of whole numbers is whole, and at least `2 ^ 52`. -/
theorem OnGrid.whole (h : OnGrid x k e) (he : 0 ≤ e) :
    exact x = (k * 2 ^ e.toNat : ℤ) ∧ 2 ^ 52 ≤ |k * 2 ^ e.toNat| := by
  have hfull : 2 ^ 52 ≤ k.natAbs := h.full.resolve_right (by omega)
  have hpow : (1 : ℤ) ≤ 2 ^ e.toNat := one_le_pow₀ one_le_two
  constructor
  · rw [h.exact_eq]
    conv_lhs => rw [← Int.toNat_of_nonneg he, zpow_natCast]
    push_cast
    rfl
  · rw [abs_mul, abs_of_pos (by omega : (0 : ℤ) < 2 ^ e.toNat), Int.abs_eq_natAbs]
    calc (2 ^ 52 : ℤ) ≤ k.natAbs * 1 := by rw [mul_one]; exact_mod_cast hfull
      _ ≤ k.natAbs * 2 ^ e.toNat := mul_le_mul_of_nonneg_left hpow (Int.natCast_nonneg _)

end Grid

/-! ## The sum -/

section Sum

variable {x : Float} {k e n : ℤ}

/-- The sum with a half is rounded once, and never too large. -/
theorem isNearest_add_half (hx : (ofFloat x).IsFinite) :
    IsNearest (exact x + 1 / 2) (x + 0.5) := by
  obtain ⟨k, e, h⟩ := exists_grid hx
  have hbound : |exact x| ≤ (2 ^ 53 - 1) * 2 ^ (971 : ℤ) :=
    h.abs_exact_le.trans
      (mul_le_mul_of_nonneg_left (zpow_le_zpow_right₀ one_le_two h.large) (by norm_num))
  have hsum := isNearest_add hx ⟨_, _, _, ofFloat_half⟩
  rw [exact_half] at hsum
  refine hsum ?_
  have hhalf : (1 : ℚ) < 2 ^ (971 : ℤ) := one_lt_zpow₀ one_lt_two (by norm_num)
  have htop : overflow = (2 ^ 53 - 1) * 2 ^ (971 : ℤ) + 2 ^ (971 : ℤ) / 2 := by
    rw [overflow, scaled]
    norm_num
  rw [htop]
  generalize (2 : ℚ) ^ (971 : ℤ) = unit at hbound hhalf
  calc |exact x + 1 / 2| ≤ |exact x| + |1 / 2| := abs_add_le _ _
    _ < (2 ^ 53 - 1) * unit + unit / 2 := by
      rw [abs_of_pos (by norm_num : (0 : ℚ) < 1 / 2)]
      linarith

/-- **The sum is exact if it fits on the grid of its double**, which has the halves too. -/
theorem OnGrid.exact_add_half_of_lt (h : OnGrid x k e) (he : e < 0)
    (hlt : |exact x + 1 / 2| < 2 ^ 53 * 2 ^ e) (hx : (ofFloat x).IsFinite) :
    exact (x + 0.5) = exact x + 1 / 2 := by
  have hunit := two_zpow_pos e
  have hvalue : exact x + 1 / 2 = (k + 2 ^ (-1 - e).toNat : ℤ) * 2 ^ e := by
    have hhalf : (2 : ℚ) ^ (-1 - e).toNat * 2 ^ e = 1 / 2 := by
      rw [← zpow_natCast, Int.toNat_of_nonneg (by omega), ← zpow_add₀ two_ne_zero]
      norm_num
    rw [h.exact_eq, ← hhalf]
    push_cast
    ring
  have hfew : (k + 2 ^ (-1 - e).toNat).natAbs < Nat.pow 2 53 := by
    rw [hvalue, abs_mul, abs_of_pos hunit, mul_lt_mul_iff_of_pos_right hunit, ← Int.cast_abs,
      Int.abs_eq_natAbs] at hlt
    exact_mod_cast hlt
  obtain ⟨z, hz, hexact⟩ := exists_scaled hfew h.least h.large
  have hnearest := isNearest_add_half hx
  rw [hvalue, ← hexact] at hnearest
  rw [hnearest.eq_of_exact hz, hexact, hvalue]

/-! ## Doubles with a fraction -/

/-- No whole number lies between one below a power of two and that power. -/
theorem add_one_le_two_zpow (hn : 0 < n) (h : (n : ℚ) < 2 ^ e) : (n : ℚ) + 1 ≤ 2 ^ e := by
  have hone : (1 : ℚ) ≤ n := by exact_mod_cast hn
  have he : 0 ≤ e := by
    by_contra hneg
    have hsmall : (2 : ℚ) ^ e ≤ 2 ^ (0 : ℤ) := zpow_le_zpow_right₀ one_le_two (by omega)
    rw [zpow_zero] at hsmall
    linarith
  rw [← Int.toNat_of_nonneg he, zpow_natCast] at h ⊢
  exact_mod_cast h

/-- Between the last double but one below a half and a half there is only the last one. -/
theorem OnGrid.eq_lastBelowHalf (h : OnGrid x k e) (hlow : 1 / 2 - 1 / 2 ^ 53 < exact x)
    (hhigh : exact x < 1 / 2) : exact x = 1 / 2 - 1 / 2 ^ 54 := by
  have hpos : |exact x| = exact x := abs_of_pos (lt_trans (by norm_num) hlow)
  have hplace : e = -2 - 52 := by
    refine h.exponent_eq (by decide) ?_ ?_
    · rw [hpos]
      exact le_trans (by norm_num) hlow.le
    · rw [hpos]
      exact hhigh.trans_eq (by norm_num)
  have hvalue := h.exact_eq
  rw [hplace] at hvalue
  have hk : k = 2 ^ 53 - 1 := by
    rw [hvalue] at hlow hhigh
    norm_num at hlow hhigh
    have hleft : (2 ^ 53 - 2 : ℚ) < k := by linarith
    have hright : (k : ℚ) < 2 ^ 53 := by linarith
    have hleft' : (2 ^ 53 - 2 : ℤ) < k := by exact_mod_cast hleft
    have hright' : k < 2 ^ 53 := by exact_mod_cast hright
    omega
  rw [hvalue, hk]
  norm_num

/-- A sum below zero is nearer to zero than the double. -/
theorem OnGrid.exact_add_half_of_neg (h : OnGrid x k e) (he : e < 0) (hx : (ofFloat x).IsFinite)
    (hneg : exact x + 1 / 2 < 0) : exact (x + 0.5) = exact x + 1 / 2 := by
  refine h.exact_add_half_of_lt he ?_ hx
  have hgrid := h.abs_exact_lt
  rw [abs_of_neg (by linarith)] at hgrid ⊢
  linarith

/-- No power of two lies between a double and its sum if no whole number does. -/
theorem OnGrid.exact_add_half_of_le (h : OnGrid x k e) (he : e < 0) (hx : (ofFloat x).IsFinite)
    (hn : 0 < n) (hreach : (n : ℚ) ≤ exact x) (hnext : exact x + 1 / 2 < n + 1) :
    exact (x + 0.5) = exact x + 1 / 2 := by
  refine h.exact_add_half_of_lt he ?_ hx
  have hone : (1 : ℚ) ≤ n := by exact_mod_cast hn
  have hgrid := h.abs_exact_lt
  have hpower : (2 : ℚ) ^ 53 * 2 ^ e = 2 ^ (53 + e) := (zpow_add₀ two_ne_zero 53 e).symm
  rw [hpower, abs_of_nonneg (by linarith)] at hgrid
  have htop := add_one_le_two_zpow hn (hreach.trans_lt hgrid)
  rw [hpower, abs_of_nonneg (by linarith)]
  linarith

/-- A sum between zero and one stays there, but for the last double below a half. -/
theorem OnGrid.floor_unit (h : OnGrid x k e) (hx : (ofFloat x).IsFinite)
    (hlow : 0 ≤ exact x + 1 / 2) (hhigh : exact x + 1 / 2 < 1)
    (hne : exact x ≠ 1 / 2 - 1 / 2 ^ 54) : ⌊exact (x + 0.5)⌋ = 0 := by
  have hsum := isNearest_add_half hx
  -- the last double but one below a half still has a sum below one
  have hsmall : exact x ≤ 1 / 2 - 1 / 2 ^ 53 := by
    by_contra hmore
    exact hne (h.eq_lastBelowHalf (not_le.mp hmore) (by linarith))
  obtain ⟨z, hz, hvalue⟩ := exists_scaled (k := 2 ^ 53 - 1) (e := -53) (by decide) (by decide)
    (by decide)
  have hless := hsum.le hz (by rw [hvalue]; norm_num at hsmall ⊢; linarith)
  have hmore := hsum.ge ⟨_, _, _, ofFloat_zero⟩ (by rw [exact_zero]; exact hlow)
  rw [hvalue] at hless
  rw [exact_zero] at hmore
  norm_num at hless
  rw [Int.floor_eq_zero_iff]
  exact ⟨hmore, by linarith⟩

/-- Of the whole numbers around the sum the one below is nearer, if the double is below that. -/
theorem floor_of_lt (hx : (ofFloat x).IsFinite) (hn : n.natAbs < Nat.pow 2 53)
    (hless : exact x < n) (hfloor : (n : ℚ) ≤ exact x + 1 / 2) : ⌊exact (x + 0.5)⌋ = n := by
  have hsum := isNearest_add_half hx
  obtain ⟨z, hz, hvalue⟩ := exists_whole hn
  have hmore := hsum.ge hz (by rw [hvalue]; exact hfloor)
  have hnearest := hsum.nearest z hz
  rw [hvalue] at hmore hnearest
  rw [Int.floor_eq_iff]
  refine ⟨hmore, ?_⟩
  by_contra hover
  rw [abs_of_nonneg (by linarith), abs_of_nonpos (by linarith)] at hnearest
  linarith

/-- **Below `2 ^ 52` the sum stays under the next whole number**, but for one double. -/
theorem OnGrid.floor_fractional (h : OnGrid x k e) (he : e < 0) (hx : (ofFloat x).IsFinite)
    (hne : exact x ≠ 1 / 2 - 1 / 2 ^ 54) : ⌊exact (x + 0.5)⌋ = ⌊exact x + 1 / 2⌋ := by
  obtain ⟨n, hn⟩ : ∃ n, ⌊exact x + 1 / 2⌋ = n := ⟨_, rfl⟩
  obtain ⟨hfloor, hnext⟩ := Int.floor_eq_iff.mp hn
  rcases lt_trichotomy n 0 with hneg | rfl | hpos
  · have hminus : (n : ℚ) + 1 ≤ 0 := by exact_mod_cast hneg
    rw [h.exact_add_half_of_neg he hx (by linarith)]
  · rw [Int.cast_zero] at hfloor hnext
    rw [hn, h.floor_unit hx hfloor (by linarith) hne]
  · by_cases hreach : (n : ℚ) ≤ exact x
    · rw [h.exact_add_half_of_le he hx hpos hreach hnext]
    · have hless := not_le.mp hreach
      have hfew : n.natAbs < Nat.pow 2 53 := by
        have hbound := (abs_le.mp (h.abs_exact_le_of_fractional he)).2
        have hcast : (n : ℚ) < 2 ^ 53 := by linarith
        have hint : n < 2 ^ 53 := by exact_mod_cast hcast
        simp only [Nat.pow_eq]
        omega
      rw [hn, floor_of_lt hx hfew hless hfloor]

/-! ## Whole numbers -/

/-- A whole number that a double is rounded to is even if another double is as near. -/
theorem OnGrid.even_of_tie (h : OnGrid x k e) (he : 0 ≤ e) (hn : exact x = n) {q : ℚ}
    (hnearest : IsNearest q x) {z : Float} (hz : (ofFloat z).IsFinite)
    (htie : |exact z - q| = |exact x - q|) (hne : exact z ≠ exact x) : Even n := by
  have hsignificand := hnearest.even z hz htie hne
  rw [h.significand_eq] at hsignificand
  have hvalue : n = k * 2 ^ e.toNat := by
    have hwhole := (h.whole he).1
    rw [hn] at hwhole
    exact_mod_cast hwhole
  rw [hvalue]
  exact (Int.natAbs_even.mp (Nat.even_iff.mpr hsignificand)).mul_right _

/-- An odd number that is a double has few bits, and the even number above it is a double too. -/
theorem OnGrid.exists_next_of_odd (h : OnGrid x k e) (he : 0 ≤ e) (hn : exact x = n)
    (hodd : Odd n) : ∃ z, (ofFloat z).IsFinite ∧ exact z = n + 1 := by
  have hvalue : n = k * 2 ^ e.toNat := by
    have hwhole := (h.whole he).1
    rw [hn] at hwhole
    exact_mod_cast hwhole
  have hfew : n.natAbs < Nat.pow 2 53 := by
    have hpower : Odd ((2 : ℤ) ^ e.toNat) := by
      rw [hvalue] at hodd
      exact (Int.odd_mul.mp hodd).2
    have hzero : e.toNat = 0 := by
      by_contra hpos
      exact Int.not_even_iff_odd.mpr hpower (even_two.pow_of_ne_zero hpos)
    rw [hvalue, hzero, pow_zero, mul_one]
    exact h.lt
  obtain ⟨half, rfl⟩ := hodd
  obtain ⟨z, hz, hexact⟩ := exists_scaled (k := half + 1) (e := 1)
    (by simp only [Nat.pow_eq] at hfew ⊢; omega) (by decide) (by decide)
  refine ⟨z, hz, ?_⟩
  rw [hexact]
  push_cast
  ring

/-- Only at the end of the range a double at most a half off the middle has a fraction. -/
theorem OnGrid.eq_neg_of_fractional (h : OnGrid x k e) (he : e < 0)
    (hclose : |exact x - (n + 1 / 2)| ≤ 1 / 2) (hlarge : 2 ^ 52 ≤ |n|) : n = -2 ^ 52 := by
  obtain ⟨hlow, hhigh⟩ := abs_le.mp hclose
  obtain ⟨hleft, hright⟩ := abs_le.mp (h.abs_exact_le_of_fractional he)
  have hmore : (-2 ^ 52 - 1 : ℚ) < n := by linarith
  have hless : (n : ℚ) < 2 ^ 52 := by linarith
  have hmore' : (-2 ^ 52 - 1 : ℤ) < n := by exact_mod_cast hmore
  have hless' : n < 2 ^ 52 := by exact_mod_cast hless
  rcases abs_cases n with ⟨habs, -⟩ | ⟨habs, -⟩
  · omega
  · omega

/-- There the sum is exact. -/
theorem exact_add_half_of_end (hx : (ofFloat x).IsFinite) (hn : exact x = (-2 ^ 52 : ℤ)) :
    exact (x + 0.5) = (-2 ^ 52 : ℤ) + 1 / 2 := by
  have hsum := isNearest_add_half hx
  obtain ⟨z, hz, hvalue⟩ := exists_scaled (k := -(2 ^ 53 - 1)) (e := -1) (by decide)
    (by decide) (by decide)
  have hexact : exact z = (-2 ^ 52 : ℤ) + 1 / 2 := by
    rw [hvalue]
    norm_num
  rw [hn, ← hexact] at hsum
  rw [hsum.eq_of_exact hz, hexact]

/-- **From `2 ^ 52` on the sum goes to the even one** of the two whole numbers around it. -/
theorem OnGrid.floor_whole (h : OnGrid x k e) (he : 0 ≤ e) (hx : (ofFloat x).IsFinite)
    (hn : exact x = n) (hlarge : 2 ^ 52 ≤ |n|) :
    ⌊exact (x + 0.5)⌋ = if Even n then n else n + 1 := by
  have hsum := isNearest_add_half hx
  rw [hn] at hsum
  have hclose := hsum.nearest x hx
  rw [hn, sub_add_cancel_left, abs_neg, abs_of_pos (by norm_num : (0 : ℚ) < 1 / 2)] at hclose
  obtain ⟨k', e', h'⟩ := exists_grid hsum.isFinite
  rcases lt_or_ge e' 0 with hneg | hwhole
  · obtain rfl := h'.eq_neg_of_fractional hneg hclose hlarge
    rw [exact_add_half_of_end hx hn, floor_add_half, if_pos (by decide)]
  · -- the sum is whole, and as near to one neighbour as to the other
    have hvalue := (h'.whole hwhole).1
    generalize k' * 2 ^ e'.toNat = p at hvalue
    have htwo : p = n ∨ p = n + 1 := by
      obtain ⟨hlow, hhigh⟩ := abs_le.mp hclose
      rw [hvalue] at hlow hhigh
      have hleft : (n : ℚ) ≤ p := by linarith
      have hright : (p : ℚ) ≤ n + 1 := by linarith
      have hleft' : n ≤ p := by exact_mod_cast hleft
      have hright' : p ≤ n + 1 := by exact_mod_cast hright
      omega
    rw [hvalue, Int.floor_intCast]
    rcases htwo with rfl | rfl
    · by_cases heven : Even p
      · rw [if_pos heven]
      · have hodd := Int.not_even_iff_odd.mp heven
        obtain ⟨z, hz, hnext⟩ := h.exists_next_of_odd he hn hodd
        refine absurd (h'.even_of_tie hwhole hvalue hsum hz ?_ ?_) heven
        · rw [hnext, hvalue, ← abs_neg]
          congr 1
          ring
        · rw [hnext, hvalue]
          exact (lt_add_one _).ne'
    · have heven := h'.even_of_tie hwhole hvalue hsum hx (by
        rw [hn, hvalue, ← abs_neg]
        congr 1
        push_cast
        ring) (by
        rw [hn, hvalue]
        push_cast
        exact (lt_add_one _).ne)
      rw [if_neg (Int.even_add_one.mp heven)]

/-! ## The last double below a half -/

theorem ofFloat_lastBelowHalf :
    ofFloat 0.49999999999999994 = .finite false (Nat.pow 2 53 - 1) (-54) := by decide +kernel

theorem ofFloat_lastBelowHalf_add_half :
    ofFloat (0.49999999999999994 + 0.5) = .finite false (Nat.pow 2 52) (-52) := by decide +kernel

theorem exact_lastBelowHalf : exact 0.49999999999999994 = 1 / 2 - 1 / 2 ^ 54 := by
  rw [exact_eq ofFloat_lastBelowHalf]
  norm_num [signed, scaled]

/-- Its sum with a half is as near to one as to the double below, and goes to one. -/
theorem exact_add_half_of_lastBelowHalf (hx : (ofFloat x).IsFinite)
    (hq : exact x = 1 / 2 - 1 / 2 ^ 54) : exact (x + 0.5) = 1 := by
  have hsum := isNearest_add_half hx
  have hknown := isNearest_add_half (x := 0.49999999999999994) ⟨_, _, _, ofFloat_lastBelowHalf⟩
  rw [exact_lastBelowHalf, ← hq] at hknown
  have hsmall : |exact x + 1 / 2| < overflow := by
    rw [hq]
    exact lt_trans (by norm_num [abs_of_pos]) byte_lt_overflow
  rw [hsum.unique hknown hsmall, exact_eq ofFloat_lastBelowHalf_add_half]
  norm_num [signed, scaled]

/-! ## The nearest whole number -/

/-- **Adding a half and going down misses by one, or not at all.** -/
theorem floor_sum (hx : (ofFloat x).IsFinite) :
    (¬ OvershootsHalf (exact x) → ⌊exact (x + 0.5)⌋ = ⌊exact x + 1 / 2⌋) ∧
      (OvershootsHalf (exact x) → ⌊exact (x + 0.5)⌋ = ⌊exact x + 1 / 2⌋ + 1) := by
  obtain ⟨k, e, h⟩ := exists_grid hx
  rcases lt_or_ge e 0 with hneg | hwhole
  · have hbound := h.abs_exact_le_of_fractional hneg
    constructor
    · intro hnot
      exact h.floor_fractional hneg hx fun hq => hnot (Or.inl hq)
    · rintro (hq | ⟨n, -, hlarge, hn⟩)
      · rw [exact_add_half_of_lastBelowHalf hx hq, hq]
        norm_num
      · exfalso
        have hcast : (2 ^ 52 : ℚ) < |(n : ℚ)| := by exact_mod_cast hlarge
        rw [hn] at hbound
        linarith
  · obtain ⟨hn, hlarge⟩ := h.whole hwhole
    generalize k * 2 ^ e.toNat = n at hn hlarge
    have hfloor := h.floor_whole hwhole hx hn hlarge
    rw [hfloor, hn, floor_add_half]
    constructor
    · intro hnot
      refine if_pos ?_
      by_contra hodd
      have hstrict : 2 ^ 52 ≠ |n| := by
        intro hend
        exact hodd (even_abs.mp (hend ▸ by decide))
      exact hnot (Or.inr ⟨n, Int.not_even_iff_odd.mp hodd, lt_of_le_of_ne hlarge hstrict, rfl⟩)
    · rintro (hq | ⟨n', hodd, -, hn'⟩)
      · exfalso
        have hcast : (2 ^ 52 : ℚ) ≤ |(n : ℚ)| := by exact_mod_cast hlarge
        rw [hq] at hcast
        norm_num [abs_of_pos] at hcast
      · obtain rfl : n = n' := by exact_mod_cast hn'
        exact if_neg (Int.not_even_iff_odd.mpr hodd)

/-- Rounding is adding a half as a double, and going down to the next whole number. -/
theorem roundHalfUp_eq (hx : (ofFloat x).IsFinite) : roundHalfUp x = .ok ⌊exact (x + 0.5)⌋ :=
  floorFloat_eq (isNearest_add_half hx).isFinite

/-- **A finite double is rounded to the nearest whole number unless the sum with a half overshoots**,
and then to the next one; whole numbers are kept but for the odd ones above `2 ^ 52`. -/
theorem roundHalfUp_isNearestWhole_iff (hx : (ofFloat x).IsFinite) :
    ∃ n : ℤ, roundHalfUp x = .ok n ∧
      (IsNearestWhole n (exact x) ↔ ¬ OvershootsHalf (exact x)) ∧
      (OvershootsHalf (exact x) → IsNearestWhole (n - 1) (exact x)) ∧
      ∀ k : ℤ, exact x = k → (n = k ↔ ¬ (Odd k ∧ 2 ^ 52 < |k|)) := by
  obtain ⟨hreach, hover⟩ := floor_sum hx
  refine ⟨_, roundHalfUp_eq hx, ?_, ?_, ?_⟩
  · rw [isNearestWhole_iff]
    constructor
    · intro heq hovershoots
      have hmiss := hover hovershoots
      omega
    · intro hnot
      exact (hreach hnot).symm
  · intro hovershoots
    rw [isNearestWhole_iff, hover hovershoots, add_sub_cancel_right]
  · intro k hk
    have hfloor : ⌊exact x + 1 / 2⌋ = k := by rw [hk, floor_add_half]
    constructor
    · rintro heq ⟨hodd, hlarge⟩
      have hmiss := hover (Or.inr ⟨k, hodd, hlarge, hk⟩)
      omega
    · intro hnot
      rw [hreach ?_, hfloor]
      rintro (hq | ⟨k', hodd, hlarge, hk'⟩)
      · -- a whole number is not just below a half
        rw [hq] at hfloor hk
        norm_num at hfloor
        rw [← hfloor] at hk
        norm_num at hk
      · obtain rfl : k = k' := by exact_mod_cast hk.symm.trans hk'
        exact hnot ⟨hodd, hlarge⟩

end Sum

theorem ofFloat_middleByte : ofFloat 127.5 = .finite false (255 * Nat.pow 2 45) (-46) := by
  decide +kernel

/-- A tie between two bytes goes up. -/
theorem roundHalfUp_isNearestWhole_iff_middleByte :
    (ofFloat 127.5).IsFinite ∧ roundHalfUp 127.5 = .ok 128 ∧
      IsNearestWhole 128 (exact 127.5) := by
  have hx : (ofFloat 127.5).IsFinite := ⟨_, _, _, ofFloat_middleByte⟩
  obtain ⟨n, hround, hnearest, -⟩ := roundHalfUp_isNearestWhole_iff hx
  have hvalue : exact 127.5 = 255 / 2 := by
    rw [exact_eq ofFloat_middleByte]
    norm_num [signed, scaled]
  have hbyte : roundHalfUp 127.5 = .ok 128 := by decide +kernel
  obtain rfl : n = 128 := Except.ok.inj (hround.symm.trans hbyte)
  refine ⟨hx, hbyte, hnearest.mpr ?_⟩
  rw [hvalue]
  rintro (hq | ⟨k, -, -, hk⟩)
  · norm_num at hq
  · have hdouble : 255 = k * 2 := by
      rw [div_eq_iff two_ne_zero] at hk
      exact_mod_cast hk
    omega

/-- **Two doubles that are not rounded to the nearest whole number**: the last one below a half, and
a whole number that is not kept. -/
theorem exists_not_isNearestWhole :
    (roundHalfUp 0.49999999999999994 = .ok 1 ∧
        ¬ IsNearestWhole 1 (exact 0.49999999999999994)) ∧
      roundHalfUp 4503599627370497.0 = .ok 4503599627370498 ∧
        exact 4503599627370497.0 = 4503599627370497 := by
  have hwhole : ofFloat 4503599627370497.0 = .finite false 4503599627370497 0 := by decide +kernel
  refine ⟨⟨by decide +kernel, ?_⟩, by decide +kernel, ?_⟩
  · rw [IsNearestWhole, exact_lastBelowHalf]
    norm_num
  · rw [exact_eq hwhole]
    norm_num [signed, scaled]

end CssColor
