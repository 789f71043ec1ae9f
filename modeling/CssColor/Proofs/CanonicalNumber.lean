import CssColor.Proofs.DecimalPlaces
import CssColor.Proofs.ShortestDigits

/-!
# The shortened text of a double

A double is written with decimal places, and then without superfluous parts.
What is left is one text for each rounded number.

- `PlainNumber.IsCanonical`: no zero ends the fraction and zero has no sign.
- `formatNumber_eq_shorten`: the text of a double below the limit is the shortened
  one of its rounded number.
- `formatNumber_eq_iff`: **two doubles have the same text if and only if they are
  rounded to the same number**.
- `formatNumber_of_large`: a text with a power of ten stays as it is.
- `formatNumber_of_finite`: **the text of a finite double is a finite decimal
  numeral**, whatever its magnitude and the places.
- `formatNumber_of_infinite`, `formatNumber_of_nan`: what is not finite is named.
- `formatNumber_canonical`: what is left of the text of any finite double.
-/

namespace CssColor

open Binary64

/-- A plain number without superfluous parts: no zero ends the fraction, and zero has no sign. -/
structure PlainNumber.IsCanonical (n : PlainNumber) : Prop where
  last : n.part.getLast? ≠ some '0'
  sign : n.negative = true → n.value ≠ 0

/-- Shortening leaves no superfluous part. -/
theorem PlainNumber.isCanonical_shorten (n : PlainNumber) : n.shorten.IsCanonical :=
  ⟨getLast?_withoutEndZeros n.part, n.value_ne_zero_of_negative⟩

section Doubles

variable {x y : Float} {negative : Bool} {m : ℕ} {e : ℤ}

/-- The text of a finite double below the limit is that of its units, shortened. -/
theorem formatNumber_eq_shorten (hx : ofFloat x = .finite negative m e)
    (hsmall : |exact x| < 10 ^ 21) (places : ℕ) :
    formatNumber x places =
      .ok (PlainNumber.ofUnits negative (fixedUnits m e places) places).shorten.text := by
  have hshort := (PlainNumber.ofUnits negative (fixedUnits m e places) places).shortened_text
  rw [PlainNumber.length_part_ofUnits] at hshort
  rw [formatNumber, toFixed_eq_ofUnits hx hsmall places, Except.map, hshort]

/-- **Two doubles have the same text if and only if they are rounded to the same number.** -/
theorem formatNumber_eq_iff (hx : (ofFloat x).IsFinite) (hy : (ofFloat y).IsFinite)
    (hsmall : |exact x| < 10 ^ 21) (hsmall' : |exact y| < 10 ^ 21) (places : ℕ) :
    formatNumber x places = formatNumber y places ↔
      ∃ r, IsRounding places (exact x) r ∧ IsRounding places (exact y) r := by
  obtain ⟨negative, m, e, hx⟩ := hx
  obtain ⟨negative', m', e', hy⟩ := hy
  have hround := isRounding_ofUnits hx places
  have hround' := isRounding_ofUnits hy places
  rw [formatNumber_eq_shorten hx hsmall, formatNumber_eq_shorten hy hsmall', Except.ok.injEq,
    PlainNumber.text_shorten_ofUnits_eq_iff]
  constructor
  · intro hvalue
    exact ⟨_, hround, hvalue ▸ hround'⟩
  · rintro ⟨r, hr, hr'⟩
    exact (hround.unique hr).trans (hr'.unique hround')

/-- The two layouts name what is not finite in their own ways, and agree on the rest. -/
theorem namedLayout_finite (negative : Bool) (m : ℕ) (e : ℤ) :
    namedLayout.text (.finite negative m e) = literalLayout.text (.finite negative m e) := by
  have hnamed : namedLayout.leastPlace = -3 ∧ namedLayout.mostPlace = 16 ∧
      namedLayout.exponentDigits = 2 :=
    ⟨rfl, rfl, rfl⟩
  have hliteral : literalLayout.leastPlace = -3 ∧ literalLayout.mostPlace = 16 ∧
      literalLayout.exponentDigits = 2 :=
    ⟨rfl, rfl, rfl⟩
  simp only [FloatLayout.text, FloatLayout.exponentText, hnamed, hliteral]

/-- A double from the limit on is written without regard to places. -/
theorem toFixed_of_large (hx : (ofFloat x).IsFinite) (hlarge : 10 ^ 21 ≤ |exact x|) (places : ℕ) :
    toFixed x places = .ok (floatText x) := by
  have hlimit := mt (abs_lt_fixedLimit_iff hx).mp (not_lt.mpr hlarge)
  obtain ⟨negative, m, e, hx⟩ := hx
  rw [toFixed, floatText, hx]
  dsimp only
  rw [if_neg hlimit, namedLayout_finite]

/-- A text with a power of ten stays as it is. -/
theorem formatNumber_of_large (hx : (ofFloat x).IsFinite) (hlarge : 10 ^ 21 ≤ |exact x|)
    (places : ℕ) : formatNumber x places = .ok (floatText x) := by
  have hfixed := toFixed_of_large hx hlarge places
  obtain ⟨negative, m, e, hx⟩ := hx
  obtain ⟨units, exponent, -, he, -⟩ := floatText_of_large hx hlarge
  rw [formatNumber, hfixed, Except.map, shortened, if_pos (List.contains_iff_mem.mpr he)]

/-- **Without places the search for a fraction of zeros finds nothing**: what has no power of ten then
has no point. -/
theorem dropZeroFraction_of_toFixed {t : Text} (h : toFixed x 0 = .ok t) (he : 'e' ∉ t) :
    dropZeroFraction t = t := by
  cases hx : ofFloat x with
  | nan =>
    rw [toFixed, hx] at h
    cases h
    decide
  | infinite negative =>
    rw [toFixed, hx] at h
    cases h
    cases negative <;> decide
  | finite negative m e =>
    rcases lt_or_ge |exact x| (10 ^ 21) with hsmall | hlarge
    · rw [toFixed_eq_ofUnits hx hsmall 0] at h
      obtain rfl := Except.ok.inj h
      exact dropZeroFraction_of_notMem
        (PlainNumber.point_notMem_text _ (List.length_eq_zero_iff.mp
          (PlainNumber.length_part_ofUnits ..)))
    · rw [toFixed_of_large ⟨_, _, _, hx⟩ hlarge] at h
      obtain rfl := Except.ok.inj h
      obtain ⟨units, exponent, -, hpower, -⟩ := floatText_of_large hx hlarge
      exact absurd hpower he

/-- **The text of a finite double is a finite decimal numeral**, whatever its magnitude. -/
theorem formatNumber_of_finite (places : ℕ) (hx : (ofFloat x).IsFinite) :
    ∃ t, formatNumber x places = .ok t ∧ IsDecimal t := by
  rcases lt_or_ge |exact x| (10 ^ 21) with hsmall | hlarge
  · obtain ⟨negative, m, e, hvalue⟩ := hx
    exact ⟨_, formatNumber_eq_shorten hvalue hsmall places, (PlainNumber.denotes _).isDecimal⟩
  · have htext := formatNumber_of_large hx hlarge places
    obtain ⟨negative, m, e, hvalue⟩ := hx
    obtain ⟨units, exponent, hdenotes, -, -⟩ := floatText_of_large hvalue hlarge
    exact ⟨_, htext, hdenotes.isDecimal⟩

/-- An infinity is named, with its sign. -/
theorem formatNumber_of_infinite (places : Nat) (hx : ofFloat x = .infinite negative) :
    formatNumber x places = .ok ((if negative then ['-'] else []) ++ "Infinity".toList) := by
  rw [formatNumber, toFixed, hx]
  cases negative with
  | true => cases hplaces : decide (0 < places) <;> rfl
  | false => cases hplaces : decide (0 < places) <;> rfl

/-- What is no number is named. -/
theorem formatNumber_of_nan (places : Nat) (hx : ofFloat x = .nan) :
    formatNumber x places = .ok "NaN".toList := by
  rw [formatNumber, toFixed, hx]
  cases hplaces : decide (0 < places) <;> rfl

/-- Every double has a text, whatever the count of places. -/
theorem exists_formatNumber (x : Float) (places : Nat) : ∃ t, formatNumber x places = .ok t := by
  cases hx : ofFloat x with
  | nan => exact ⟨_, formatNumber_of_nan places hx⟩
  | infinite negative => exact ⟨_, formatNumber_of_infinite places hx⟩
  | finite negative significand exponent =>
    obtain ⟨t, ht, -⟩ := formatNumber_of_finite places ⟨negative, significand, exponent, hx⟩
    exact ⟨t, ht⟩

/-- **The text of a finite double is canonical.** Below the limit it denotes the same number as the
text with all places, with the same whole part and the start of the same fraction; no zero ends the
fraction and zero has no sign, so that texts are the same exactly where rounded numbers are. From
the limit on the text with a power of ten is not touched. -/
theorem formatNumber_canonical (hx : (ofFloat x).IsFinite) (places : ℕ) :
    (|exact x| < 10 ^ 21 →
      (∃ fixed short : PlainNumber, toFixed x places = .ok fixed.text ∧
        formatNumber x places = .ok short.text ∧ fixed.text.decimalValue? = some fixed.value ∧
        short.text.decimalValue? = some fixed.value ∧ short.whole = fixed.whole ∧
        short.part <+: fixed.part ∧ short.IsCanonical) ∧
      ∀ y, (ofFloat y).IsFinite → |exact y| < 10 ^ 21 →
        (formatNumber x places = formatNumber y places ↔
          ∃ r, IsRounding places (exact x) r ∧ IsRounding places (exact y) r)) ∧
    (10 ^ 21 ≤ |exact x| → 'e' ∈ floatText x ∧ toFixed x places = .ok (floatText x) ∧
      formatNumber x places = .ok (floatText x)) := by
  refine ⟨fun hsmall => ⟨?_, fun y hy hsmall' => formatNumber_eq_iff hx hy hsmall hsmall' places⟩,
    fun hlarge => ⟨?_, toFixed_of_large hx hlarge places, formatNumber_of_large hx hlarge places⟩⟩
  · obtain ⟨negative, m, e, hvalue⟩ := hx
    have hread := (PlainNumber.ofUnits negative (fixedUnits m e places) places).shorten
      |>.decimalValue?_text
    rw [PlainNumber.value_shorten] at hread
    exact ⟨_, _, toFixed_eq_ofUnits hvalue hsmall places,
      formatNumber_eq_shorten hvalue hsmall places, PlainNumber.decimalValue?_text _, hread, rfl,
      PlainNumber.shorten_part_isPrefix _, PlainNumber.isCanonical_shorten _⟩
  · obtain ⟨negative, m, e, hvalue⟩ := hx
    obtain ⟨units, exponent, -, he, -⟩ := floatText_of_large hvalue hlarge
    exact he

/-- The zeros of a whole part are kept, and a power of ten. -/
theorem formatNumber_canonical_hundred :
    (∃ fixed short : PlainNumber, toFixed 100.0 2 = .ok fixed.text ∧
      formatNumber 100.0 2 = .ok short.text ∧ fixed.text.decimalValue? = some fixed.value ∧
      short.text.decimalValue? = some fixed.value ∧ short.whole = fixed.whole ∧
      short.part <+: fixed.part ∧ short.IsCanonical) ∧
    'e' ∈ floatText 1e21 ∧ formatNumber 1e21 2 = .ok (floatText 1e21) := by
  have hundred : ofFloat 100.0 = .finite false 7036874417766400 (-46) := by decide +kernel
  have hlimit : ofFloat 1e21 = .finite false 7629394531250000 17 := ofFloat_fixedLimit
  have hsmall : |exact 100.0| < 10 ^ 21 := by
    rw [exact, hundred, abs_toRat, scaled]
    norm_num
  have hlarge : 10 ^ 21 ≤ |exact 1e21| := by
    rw [exact, hlimit, abs_toRat, scaled_limit]
  obtain ⟨he, -, htext⟩ := (formatNumber_canonical ⟨_, _, _, hlimit⟩ 2).2 hlarge
  exact ⟨((formatNumber_canonical ⟨_, _, _, hundred⟩ 2).1 hsmall).1, he, htext⟩

end Doubles

end CssColor
