import CssColor.Proofs.Character
import CssColor.Proofs.ExactValue
import CssColor.Proofs.Numeral
import CssColor.Text.Double

/-!
# Numbers in plain notation

A number is written with digits and a point, or with one digit in front of the
point and a power of ten. What such a text denotes is read off it exactly, as a
rational number.

- `Text.decimalValue?`: the number that a text denotes.
- `Denotes`: how a number is written, with or without a power of ten;
  `Denotes.decimalValue?`: **the number is read off the text**.
- `PlainNumber`: a sign or none, a whole part without superfluous zeros, and the
  digits behind the point; `PlainNumber.text` and `PlainNumber.value`.
- `PlainNumber.decimalValue?_text`: **the text of a plain number denotes its value**.
- `PlainNumber.ofUnits`: units of a decimal place, with the point in its place.
- `PlainNumber.shorten`: a plain number without superfluous parts.
-/

namespace CssColor

/-! ## What a text denotes -/

/-- The number that a numeral denotes, exactly. -/
def Text.decimalValue? (t : Text) : Option ℚ :=
  let (negative, body) := t.splitSign
  (Text.decimalParts? body).map fun (digits, exponent) => signed negative (digits * 10 ^ exponent)

/-- The value of digits. -/
def digitsValue (t : Text) : ℕ :=
  Nat.ofDigitChars 10 t 0

/-- What stands behind the digits of a number, and the power of ten that it denotes. -/
inductive DenotesPower : Text → ℤ → Prop where
  | none : DenotesPower [] 0
  | some (negative : Bool) {digits : Text} (h : IsDigits digits) :
    DenotesPower ('e' :: (if negative then '-' else '+') :: digits)
      (if negative then -(digitsValue digits : ℤ) else digitsValue digits)

/-- A text that is a sign or none, digits, a point with digits behind it or none, and a power of ten
or none; it denotes `units * 10 ^ exponent`. -/
inductive Denotes : Text → Bool → ℕ → ℤ → Prop where
  | intro (negative : Bool) {whole part power : Text} {exponent : ℤ} (hwhole : IsDigits whole)
    (hpart : ∀ c ∈ part, isAsciiDigit c = true) (hpower : DenotesPower power exponent) :
    Denotes ((if negative then ['-'] else []) ++ (whole ++ (fractionText part ++ power))) negative
      (digitsValue (whole ++ part)) (exponent - part.length)

section Reading

variable {whole part power : Text} {exponent : ℤ}

theorem IsDigits.sign_ne {c : Char} (h : IsDigits whole) (hc : c ∈ whole) : c ≠ '-' ∧ c ≠ '+' := by
  have hdigit := h.2 c hc
  constructor <;> rintro rfl <;> exact absurd hdigit (by decide)

/-- The digits at the start of a text end where something else stands. -/
theorem takeWhile_digits {rest : Text} (hwhole : ∀ c ∈ whole, isAsciiDigit c = true)
    (hrest : ∀ c ∈ rest.head?, isAsciiDigit c = false) :
    (whole ++ rest).takeWhile isAsciiDigit = whole ∧
      (whole ++ rest).dropWhile isAsciiDigit = rest := by
  rw [List.takeWhile_append_of_pos hwhole, List.dropWhile_append_of_pos hwhole]
  cases rest with
  | nil => exact ⟨List.append_nil whole, rfl⟩
  | cons c rest =>
    have hc := hrest c rfl
    rw [List.takeWhile_cons, List.dropWhile_cons, hc]
    exact ⟨List.append_nil whole, rfl⟩

theorem DenotesPower.head (h : DenotesPower power exponent) :
    ∀ c ∈ power.head?, isAsciiDigit c = false := by
  intro c hc
  cases h with
  | none => cases hc
  | some negative hdigits =>
    obtain rfl := Option.some.inj hc
    decide

/-- Where a fraction starts, the digits in front of it end. -/
theorem head_fraction (part : Text) (hend : ∀ c ∈ power.head?, isAsciiDigit c = false) :
    ∀ c ∈ (fractionText part ++ power).head?, isAsciiDigit c = false := by
  intro c hc
  by_cases hnone : part = []
  · rw [hnone, fractionText, if_pos rfl, List.nil_append] at hc
    exact hend c hc
  · rw [fractionText, if_neg hnone, List.cons_append] at hc
    obtain rfl := Option.some.inj hc
    decide

/-- **Digits, a point, digits and a power are read as they are written.** -/
theorem decimalParts?_mantissa (hwhole : IsDigits whole)
    (hpart : ∀ c ∈ part, isAsciiDigit c = true) (hpower : DenotesPower power exponent) :
    Text.decimalParts? (whole ++ (fractionText part ++ power)) =
      some (digitsValue (whole ++ part), exponent - part.length) := by
  have hend := hpower.head
  obtain ⟨htake, hdrop⟩ := takeWhile_digits hwhole.2 (head_fraction part hend)
  obtain ⟨htake', hdrop'⟩ := takeWhile_digits hpart hend
  have hsome : (whole ++ part).isEmpty = false :=
    List.isEmpty_eq_false_iff.mpr fun h => hwhole.1 (List.append_eq_nil_iff.mp h).1
  rw [Text.decimalParts?]
  dsimp only
  rw [htake, hdrop]
  -- with a fraction or without, and then with a power or without
  by_cases hnone : part = []
  · subst hnone
    rw [fractionText, if_pos rfl, List.nil_append]
    cases hpower with
    | none => simp [digitsValue, hwhole.1]
    | @some negative digits hdigits =>
      have hall : digits.all isAsciiDigit = true := List.all_eq_true.mpr hdigits.2
      cases negative <;> simp [Text.splitSign, hall, hdigits.1, hwhole.1, digitsValue]
  · rw [fractionText, if_neg hnone, List.cons_append]
    simp only [htake', hdrop', hsome]
    cases hpower with
    | none => simp [digitsValue]
    | @some negative digits hdigits =>
      have hall : digits.all isAsciiDigit = true := List.all_eq_true.mpr hdigits.2
      cases negative <;> simp [Text.splitSign, hall, hdigits.1, digitsValue]

/-- Digits have no sign of their own. -/
theorem splitSign_digits (negative : Bool) (hwhole : IsDigits whole) (rest : Text) :
    Text.splitSign ((if negative then ['-'] else []) ++ (whole ++ rest)) =
      (negative, whole ++ rest) := by
  cases negative with
  | true => rfl
  | false =>
    -- the first character is a digit, and so neither of the signs
    cases whole with
    | nil => exact absurd rfl hwhole.1
    | cons c whole =>
      obtain ⟨hminus, hplus⟩ := hwhole.sign_ne (List.mem_cons_self (a := c))
      rw [Text.splitSign.eq_def]
      split
      · rename_i heq
        exact absurd (List.cons.inj heq).1 hminus
      · rename_i heq
        exact absurd (List.cons.inj heq).1 hplus
      · rfl

/-- **The number that a text denotes is read off it.** -/
theorem Denotes.decimalValue? {t : Text} {negative : Bool} {units : ℕ}
    (h : Denotes t negative units exponent) :
    t.decimalValue? = some (signed negative (units * 10 ^ exponent)) := by
  cases h with
  | intro negative hwhole hpart hpower =>
    rw [Text.decimalValue?, splitSign_digits negative hwhole]
    dsimp only
    rw [decimalParts?_mantissa hwhole hpart hpower]
    rfl

/-- What denotes a number is a numeral. -/
theorem Denotes.isDecimal {t : Text} {negative : Bool} {units : ℕ}
    (h : Denotes t negative units exponent) : IsDecimal t := by
  cases h with
  | @intro negative whole part power exponent hwhole hpart hpower =>
    have hmantissa : IsMantissa (whole ++ fractionText part) := by
      by_cases hnone : part = []
      · rw [fractionText, if_pos hnone, List.append_nil]
        exact Or.inl hwhole
      · rw [fractionText, if_neg hnone]
        exact Or.inr ⟨whole, part, hwhole, ⟨hnone, hpart⟩, rfl⟩
    have hpower' : IsPower power := by
      cases hpower with
      | none => exact Or.inl rfl
      | @some sign digits hdigits =>
        refine Or.inr ⟨_, digits, ?_, hdigits, rfl⟩
        cases sign
        · exact Or.inl rfl
        · exact Or.inr rfl
    exact ⟨negative, _, power, hmantissa, hpower', by simp only [List.append_assoc]⟩

end Reading

/-! ## The value of digits -/

section Digits

variable {t : Text}

theorem digitsValue_append (t u : Text) :
    digitsValue (t ++ u) = digitsValue t * 10 ^ u.length + digitsValue u := by
  rw [digitsValue, Nat.ofDigitChars_append, Nat.ofDigitChars_eq_ofDigitChars_zero, mul_comm]
  rfl

theorem digitsValue_replicate (count : ℕ) : digitsValue (List.replicate count '0') = 0 := by
  rw [digitsValue, Nat.ofDigitChars_replicate_zero, mul_zero]

theorem digitsValue_toDigits (n : ℕ) : digitsValue (Nat.toDigits 10 n) = n :=
  Nat.ofDigitChars_ten_toDigits

/-- Digits that are not all zeros denote a positive number. -/
theorem digitsValue_pos (h : ∀ c ∈ t, isAsciiDigit c = true) {c : Char} (hc : c ∈ t)
    (hzero : c ≠ '0') : 0 < digitsValue t := by
  obtain ⟨before, after, rfl⟩ := List.append_of_mem hc
  have hdigit := isAsciiDigit_iff.mp (h c hc)
  have hcode : c.toNat ≠ 48 := fun heq => hzero (Char.toNat_inj.mp heq)
  have hsingle : digitsValue [c] = c.toNat - 48 := by
    simp [digitsValue, Nat.ofDigitChars_cons, Nat.ofDigitChars_nil]
  rw [List.append_cons, digitsValue_append, digitsValue_append before, hsingle]
  have hpos : 0 < 10 ^ after.length := Nat.pow_pos (by decide)
  have hfirst : 0 < (digitsValue before * 10 ^ [c].length + (c.toNat - 48)) * 10 ^ after.length :=
    Nat.mul_pos (by omega) hpos
  omega

/-- No zero leads the digits of a number but those of zero. -/
theorem eq_zero_of_head_toDigits (n : ℕ) (h : (Nat.toDigits 10 n).head? = some '0') : n = 0 := by
  induction n using Nat.strongRecOn with
  | ind n ih =>
    by_cases hsmall : n < 10
    · have hdigit : ∀ k : Fin 10, k.val.digitChar = '0' → k.val = 0 := by decide
      rw [Nat.toDigits_of_lt_base hsmall] at h
      exact hdigit ⟨n, hsmall⟩ (Option.some.inj h)
    · rw [Nat.toDigits_of_base_le (by decide) (by omega),
        List.head?_append_of_ne_nil _ Nat.toDigits_ne_nil] at h
      have hrest := ih (n / 10) (by omega) h
      omega

/-- The count of digits tells how large a decimal number is. -/
theorem decimal_lt (units : ℕ) (exponent : ℤ) :
    (units * 10 ^ exponent : ℚ) < 10 ^ (digitCount units + exponent) := by
  have hcount : (units : ℚ) < (10 ^ digitCount units : ℕ) :=
    Nat.cast_lt.mpr (lt_pow_digitCount units)
  rw [zpow_add₀ (by norm_num), zpow_natCast]
  push_cast at hcount
  exact mul_lt_mul_of_pos_right hcount (zpow_pos (by norm_num) exponent)

theorem le_decimal {units : ℕ} (hunits : 0 < units) (exponent : ℤ) :
    (10 : ℚ) ^ (digitCount units + exponent - 1) ≤ units * 10 ^ exponent := by
  have hcount : ((10 ^ (digitCount units - 1) : ℕ) : ℚ) ≤ units :=
    Nat.cast_le.mpr (pow_digitCount_le hunits)
  have hpos : 0 < digitCount units := Nat.length_toDigits_pos
  have hexponent : (digitCount units : ℤ) + exponent - 1 =
      ((digitCount units - 1 : ℕ) : ℤ) + exponent := by
    omega
  rw [hexponent, zpow_add₀ (by norm_num), zpow_natCast]
  push_cast at hcount
  exact mul_le_mul_of_nonneg_right hcount (zpow_pos (by norm_num) exponent).le

end Digits

/-! ## Plain numbers -/

/-- The digits of a whole part: no zero leads them unless it is the only one. -/
structure IsWholePart (t : Text) : Prop where
  digits : IsDigits t
  lead : t.head? = some '0' → t = ['0']

/-- A number in plain notation: its sign, the digits before the point and those behind it. -/
structure PlainNumber where
  negative : Bool
  whole : Text
  part : Text
  isWholePart : IsWholePart whole
  part_digits : ∀ c ∈ part, isAsciiDigit c = true

namespace PlainNumber

variable (n : PlainNumber)

/-- How a plain number is written. -/
def text : Text :=
  (if n.negative then ['-'] else []) ++ (n.whole ++ fractionText n.part)

/-- The number that a plain number stands for. -/
def value : ℚ :=
  signed n.negative (digitsValue (n.whole ++ n.part) / 10 ^ n.part.length)

/-- A plain number counts units of its last place. -/
theorem denotes : Denotes n.text n.negative (digitsValue (n.whole ++ n.part)) (-n.part.length) := by
  have h := Denotes.intro n.negative n.isWholePart.digits n.part_digits .none
  rwa [List.append_nil, zero_sub] at h

theorem value_eq :
    n.value = signed n.negative (digitsValue (n.whole ++ n.part) * 10 ^ (-n.part.length : ℤ)) := by
  rw [value, zpow_neg, zpow_natCast, div_eq_mul_inv]

/-- **The text of a plain number denotes its value.** -/
theorem decimalValue?_text : n.text.decimalValue? = some n.value := by
  rw [n.denotes.decimalValue?, value_eq]

theorem digits_append : ∀ c ∈ n.whole ++ n.part, isAsciiDigit c = true := by
  intro c hc
  rcases List.mem_append.mp hc with hc | hc
  · exact n.isWholePart.digits.2 c hc
  · exact n.part_digits c hc

/-- Without a fraction a plain number is written without a point. -/
theorem point_notMem_text (h : n.part = []) : '.' ∉ n.text := by
  have hwhole : '.' ∉ n.whole := fun hpoint =>
    absurd (n.isWholePart.digits.2 '.' hpoint) (by decide)
  have hsign : '.' ∉ (if n.negative then ['-'] else []) := by
    cases n.negative <;> decide
  rw [text, h, fractionText, if_pos rfl, List.append_nil, List.mem_append]
  exact not_or.mpr ⟨hsign, hwhole⟩

/-- A plain number is written with digits, a sign and a point. -/
theorem e_notMem_text : 'e' ∉ n.text := by
  have hdigits : ∀ t : Text, (∀ c ∈ t, isAsciiDigit c = true) → 'e' ∉ t :=
    fun t ht he => absurd (ht 'e' he) (by decide)
  have hpart : 'e' ∉ fractionText n.part := by
    by_cases hnone : n.part = []
    · rw [hnone, fractionText, if_pos rfl]
      exact List.not_mem_nil
    · rw [fractionText, if_neg hnone, List.mem_cons]
      exact not_or.mpr ⟨by decide, hdigits _ n.part_digits⟩
  have hsign : 'e' ∉ (if n.negative then ['-'] else []) := by
    cases n.negative <;> decide
  rw [text, List.mem_append, List.mem_append]
  exact not_or.mpr ⟨hsign, not_or.mpr ⟨hdigits _ n.isWholePart.digits.2, hpart⟩⟩

/-! ### Units of a decimal place -/

/-- The digits of a count of units, with zeros in front up to the point and one before it. -/
def filledDigits (units places : ℕ) : Text :=
  List.replicate (places + 1 - (Nat.toDigits 10 units).length) '0' ++ Nat.toDigits 10 units

theorem filledDigits_isDigits (units places : ℕ) : IsDigits (filledDigits units places) :=
  (isDigits_toDigits units).append_left (isAsciiDigit_zeros _)

theorem length_filledDigits (units places : ℕ) :
    (filledDigits units places).length = max (places + 1) (Nat.toDigits 10 units).length := by
  rw [filledDigits, List.length_append, List.length_replicate]
  omega

theorem digitsValue_filledDigits (units places : ℕ) :
    digitsValue (filledDigits units places) = units := by
  rw [filledDigits, digitsValue_append, digitsValue_replicate, digitsValue_toDigits]
  omega

/-- In front of the point stands a zero only if nothing else does. -/
theorem isWholePart_filledDigits (units places : ℕ) :
    IsWholePart ((filledDigits units places).take
      ((filledDigits units places).length - places)) where
  digits := by
    have hlength := length_filledDigits units places
    exact (filledDigits_isDigits units places).take (by omega)
  lead hzero := by
    have hlength := length_filledDigits units places
    by_cases hshort : (Nat.toDigits 10 units).length ≤ places + 1
    · have hone : (filledDigits units places).length - places = 1 := by omega
      rw [hone] at hzero ⊢
      rw [List.head?_take, if_neg (by decide)] at hzero
      rw [List.take_one, hzero]
      rfl
    · have hsame : filledDigits units places = Nat.toDigits 10 units := by
        have hnone : places + 1 - (Nat.toDigits 10 units).length = 0 := by omega
        rw [filledDigits, hnone]
        rfl
      rw [hsame, List.head?_take, if_neg (by omega)] at hzero
      have hunits := eq_zero_of_head_toDigits units hzero
      rw [hunits, Nat.toDigits_zero, List.length_singleton] at hshort
      omega

/-- So many units of a decimal place. -/
def ofUnits (negative : Bool) (units places : ℕ) : PlainNumber where
  negative := negative
  whole := (filledDigits units places).take ((filledDigits units places).length - places)
  part := (filledDigits units places).drop ((filledDigits units places).length - places)
  isWholePart := isWholePart_filledDigits units places
  part_digits c hc := (filledDigits_isDigits units places).2 c (List.mem_of_mem_drop hc)

theorem length_part_ofUnits (negative : Bool) (units places : ℕ) :
    (ofUnits negative units places).part.length = places := by
  have hlength := length_filledDigits units places
  rw [ofUnits, List.length_drop]
  omega

theorem text_ofUnits (negative : Bool) (units places : ℕ) :
    (ofUnits negative units places).text =
      (if negative then ['-'] else []) ++ unitsText units places := by
  have hpart := length_part_ofUnits negative units places
  rw [text, unitsText]
  congr 1
  by_cases hplaces : places = 0
  · have hnone : (ofUnits negative units places).part = [] :=
      List.length_eq_zero_iff.mp (hpart.trans hplaces)
    rw [hnone, fractionText, if_pos rfl, List.append_nil, if_pos hplaces, hplaces]
    exact List.take_length
  · have hsome : (ofUnits negative units places).part ≠ [] := by
      intro hnone
      rw [hnone] at hpart
      exact hplaces hpart.symm
    rw [fractionText, if_neg hsome, if_neg hplaces]
    rfl

theorem value_ofUnits (negative : Bool) (units places : ℕ) :
    (ofUnits negative units places).value = signed negative (units / 10 ^ places) := by
  have hall : (ofUnits negative units places).whole ++ (ofUnits negative units places).part =
      filledDigits units places :=
    List.take_append_drop _ _
  rw [value, hall, length_part_ofUnits, digitsValue_filledDigits]
  rfl

/-! ### Without superfluous parts -/

/-- A plain number with no zero at the end of its fraction, and without a sign if nothing but a zero
is left. -/
def shorten : PlainNumber where
  negative := n.negative && !(n.whole = ['0'] && withoutEndZeros n.part = [])
  whole := n.whole
  part := withoutEndZeros n.part
  isWholePart := n.isWholePart
  part_digits := isAsciiDigit_withoutEndZeros n.part_digits

theorem negative_shorten : n.shorten.negative = true ↔
    n.negative = true ∧ ¬ (n.whole = ['0'] ∧ withoutEndZeros n.part = []) := by
  simp only [shorten, Bool.and_eq_true, Bool.not_eq_true', Bool.and_eq_false_iff,
    decide_eq_false_iff_not]
  exact and_congr_right fun _ => not_and_or.symm

/-- What is left of a fraction is its start. -/
theorem shorten_part_isPrefix : n.shorten.part <+: n.part := by
  obtain ⟨count, heq⟩ := exists_endZeros n.part
  exact ⟨_, heq.symm⟩

/-- **Shortening does not change the number.** -/
theorem value_shorten : n.shorten.value = n.value := by
  obtain ⟨count, heq⟩ := exists_endZeros n.part
  have hlength : n.part.length = (withoutEndZeros n.part).length + count := by
    conv_lhs => rw [heq, List.length_append, List.length_replicate]
  have hdigits : digitsValue (n.whole ++ n.part) =
      digitsValue (n.whole ++ withoutEndZeros n.part) * 10 ^ count := by
    conv_lhs => rw [heq, ← List.append_assoc, digitsValue_append, digitsValue_replicate,
      List.length_replicate, add_zero]
  have hmagnitude : (digitsValue (n.whole ++ n.part) / 10 ^ n.part.length : ℚ) =
      digitsValue (n.whole ++ withoutEndZeros n.part) / 10 ^ (withoutEndZeros n.part).length := by
    rw [hdigits, hlength, pow_add]
    push_cast
    exact mul_div_mul_right _ _ (by positivity)
  rw [value, value, hmagnitude]
  change signed n.shorten.negative (digitsValue (n.whole ++ withoutEndZeros n.part) / _) = _
  by_cases hzero : n.whole = ['0'] ∧ withoutEndZeros n.part = []
  · have hvalue : digitsValue (n.whole ++ withoutEndZeros n.part) = 0 := by
      rw [hzero.1, hzero.2]
      rfl
    rw [hvalue, Nat.cast_zero, zero_div, zero_div, signed_zero, signed_zero]
  · have hsign : n.shorten.negative = n.negative :=
      Bool.eq_iff_iff.mpr (n.negative_shorten.trans (and_iff_left hzero))
    rw [hsign]
    rfl

/-- **Zero has no sign** once it is shortened. -/
theorem value_ne_zero_of_negative (h : n.shorten.negative = true) : n.shorten.value ≠ 0 := by
  have hnonzero : ∃ c ∈ n.whole ++ withoutEndZeros n.part, c ≠ '0' := by
    rcases not_and_or.mp (n.negative_shorten.mp h).2 with hwhole | hpart
    · -- the first digit of a whole part but a single zero
      have hlead := mt n.isWholePart.lead hwhole
      obtain ⟨c, rest, heq⟩ := List.exists_cons_of_ne_nil n.isWholePart.digits.1
      rw [heq] at hlead ⊢
      exact ⟨c, List.mem_append_left _ List.mem_cons_self, fun hc => hlead (congrArg some hc)⟩
    · -- the last digit of a fraction
      have hlast := getLast?_withoutEndZeros n.part
      rw [List.getLast?_eq_some_getLast hpart] at hlast
      exact ⟨_, List.mem_append_right _ (List.getLast_mem hpart),
        fun hc => hlast (congrArg some hc)⟩
  obtain ⟨c, hc, hne⟩ := hnonzero
  have hpos : 0 < digitsValue (n.whole ++ withoutEndZeros n.part) :=
    digitsValue_pos n.shorten.digits_append hc hne
  have hquotient : (0 : ℚ) < digitsValue (n.shorten.whole ++ n.shorten.part) /
      10 ^ n.shorten.part.length :=
    div_pos (Nat.cast_pos.mpr hpos) (by positivity)
  rw [value, h]
  exact neg_ne_zero.mpr hquotient.ne'

/-- **The text of a plain number is shortened as the number is.** -/
theorem shortened_text : shortened (0 < n.part.length) n.text = n.shorten.text := by
  have htrimmed :
      (if decide (0 < n.part.length) then trimFraction n.text else dropZeroFraction n.text) =
        (if n.negative then ['-'] else []) ++
          (n.whole ++ fractionText (withoutEndZeros n.part)) := by
    by_cases hnone : n.part = []
    · rw [dropZeroFraction_of_notMem (n.point_notMem_text hnone), text, hnone]
      rfl
    · rw [if_pos (decide_eq_true (List.length_pos_iff.mpr hnone)), text, fractionText,
        if_neg hnone, ← List.append_assoc, trimFraction_pointed _ n.part_digits, List.append_assoc]
  have hplain : n.text.contains 'e' = false :=
    Bool.eq_false_iff.mpr fun h => n.e_notMem_text (List.contains_iff_mem.mp h)
  rw [shortened, hplain, if_neg Bool.false_ne_true, htrimmed]
  change _ = (if n.shorten.negative then ['-'] else []) ++
    (n.whole ++ fractionText (withoutEndZeros n.part))
  by_cases hzero : n.whole = ['0'] ∧ withoutEndZeros n.part = []
  · have hsign : n.shorten.negative = false :=
      Bool.eq_false_iff.mpr fun h => (n.negative_shorten.mp h).2 hzero
    rw [hsign, hzero.1, hzero.2]
    cases n.negative <;> rfl
  · -- what is left is not a single zero, and its sign stays
    have hsign : n.shorten.negative = n.negative :=
      Bool.eq_iff_iff.mpr (n.negative_shorten.trans (and_iff_left hzero))
    have hwhole := n.isWholePart.digits
    rw [hsign, if_neg]
    intro heq
    cases hnegative : n.negative with
    | true =>
      rw [hnegative] at heq
      have hrest : n.whole ++ fractionText (withoutEndZeros n.part) = ['0'] := (List.cons.inj heq).2
      rcases List.append_eq_singleton_iff.mp hrest with ⟨hnil, -⟩ | ⟨hone, hnone⟩
      · exact hwhole.1 hnil
      · refine hzero ⟨hone, ?_⟩
        by_contra hsome
        rw [fractionText, if_neg hsome] at hnone
        cases hnone
    | false =>
      rw [hnegative] at heq
      obtain ⟨c, rest, hcons⟩ := List.exists_cons_of_ne_nil hwhole.1
      rw [hcons] at heq hwhole
      exact (hwhole.sign_ne List.mem_cons_self).1 (List.cons.inj heq).1

/-- **The shortened text of a count of units is determined by the number**, sign included. -/
theorem text_shorten_ofUnits_eq_iff {negative negative' : Bool} {units units' places : ℕ} :
    (ofUnits negative units places).shorten.text =
        (ofUnits negative' units' places).shorten.text ↔
      (ofUnits negative units places).value = (ofUnits negative' units' places).value := by
  constructor
  · intro htext
    have hread := decimalValue?_text (ofUnits negative units places).shorten
    rw [htext, decimalValue?_text, value_shorten, value_shorten] at hread
    exact (Option.some.inj hread).symm
  · intro hvalue
    have hscale : (0 : ℚ) < 10 ^ places := by positivity
    have hmagnitude : units = units' := by
      have habs := congrArg abs hvalue
      rw [value_ofUnits, value_ofUnits, abs_signed, abs_signed, abs_of_nonneg (by positivity),
        abs_of_nonneg (by positivity), div_left_inj' hscale.ne'] at habs
      exact_mod_cast habs
    subst hmagnitude
    have hsame : (ofUnits negative units places).shorten.negative =
        (ofUnits negative' units places).shorten.negative := by
      have hsigns := hvalue
      rw [value_ofUnits, value_ofUnits, signed_eq_signed_iff] at hsigns
      rcases hsigns with rfl | hzero
      · rfl
      · -- of zero neither keeps a sign
        have hnone : ∀ sign : Bool, (ofUnits sign units places).shorten.negative = false := by
          intro sign
          refine Bool.eq_false_iff.mpr fun h => value_ne_zero_of_negative _ h ?_
          rw [value_shorten, value_ofUnits, hzero, signed_zero]
        rw [hnone, hnone]
    rw [text, text, hsame]
    rfl

end PlainNumber

end CssColor
