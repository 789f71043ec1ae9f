import CssColor.Text.Blank

/-!
# The ASCII classes as ranges

Each class that stylesheets are scanned with is a union of ranges of code
points. Stated so, that one class is part of another, or that two have nothing
in common, is a fact of linear arithmetic.

- `isAsciiLetter_iff`, `isNameChar_iff`, `isCssBlank_iff`, …: the ranges.
- `isNameChar_of_isAsciiLetter`, `isWordChar_of_isHexDigit`, …: the inclusions
  that the grammar rests on.
- `toNat_toLower`: small letters stand 32 places behind their capitals.
-/

namespace CssColor

variable {c : Char}

/-! ## Ranges -/

theorem isAsciiDigit_iff : isAsciiDigit c = true ↔ 48 ≤ c.toNat ∧ c.toNat ≤ 57 := by
  simp only [isAsciiDigit, Bool.and_eq_true, decide_eq_true_eq]
  exact Iff.rfl

theorem isAsciiLetter_iff :
    isAsciiLetter c = true ↔ 97 ≤ c.toNat ∧ c.toNat ≤ 122 ∨ 65 ≤ c.toNat ∧ c.toNat ≤ 90 := by
  simp only [isAsciiLetter, Bool.or_eq_true, Bool.and_eq_true, decide_eq_true_eq]
  exact Iff.rfl

theorem isHexDigit_iff :
    isHexDigit c = true ↔ 48 ≤ c.toNat ∧ c.toNat ≤ 57 ∨ 97 ≤ c.toNat ∧ c.toNat ≤ 102 ∨
      65 ≤ c.toNat ∧ c.toNat ≤ 70 := by
  simp only [isHexDigit, isAsciiDigit, Bool.or_eq_true, Bool.and_eq_true, decide_eq_true_eq,
    or_assoc]
  exact Iff.rfl

theorem isWordChar_iff :
    isWordChar c = true ↔ isAsciiLetter c = true ∨ isAsciiDigit c = true ∨ c.toNat = 95 := by
  simp only [isWordChar, Bool.or_eq_true, beq_iff_eq, or_assoc, ← Char.toNat_inj]
  exact Iff.rfl

theorem isNameChar_iff : isNameChar c = true ↔ isWordChar c = true ∨ c.toNat = 45 := by
  simp only [isNameChar, Bool.or_eq_true, beq_iff_eq, ← Char.toNat_inj]
  exact Iff.rfl

theorem isPropertyChar_iff : isPropertyChar c = true ↔ isAsciiLetter c = true ∨ c.toNat = 45 := by
  simp only [isPropertyChar, Bool.or_eq_true, beq_iff_eq, ← Char.toNat_inj]
  exact Iff.rfl

theorem isCssBlank_iff : isCssBlank c = true ↔ c.toNat = 32 ∨ 9 ≤ c.toNat ∧ c.toNat ≤ 13 := by
  simp only [isCssBlank, Bool.or_eq_true, beq_iff_eq, Bool.and_eq_true, decide_eq_true_eq,
    ← Char.toNat_inj]
  exact Iff.rfl

/-! ## Inclusions -/

theorem isWordChar_of_isHexDigit (h : isHexDigit c = true) : isWordChar c = true := by
  rw [isWordChar_iff, isAsciiLetter_iff, isAsciiDigit_iff]
  rw [isHexDigit_iff] at h
  omega

theorem isNameChar_of_isWordChar (h : isWordChar c = true) : isNameChar c = true :=
  isNameChar_iff.mpr (Or.inl h)

theorem isNameChar_of_isAsciiLetter (h : isAsciiLetter c = true) : isNameChar c = true :=
  isNameChar_of_isWordChar (isWordChar_iff.mpr (Or.inl h))

theorem isNameChar_of_isPropertyChar (h : isPropertyChar c = true) : isNameChar c = true := by
  rcases isPropertyChar_iff.mp h with h | h
  · exact isNameChar_of_isAsciiLetter h
  · exact isNameChar_iff.mpr (Or.inr h)

/-- No blank can stand in a name. -/
theorem isNameChar_eq_false_of_isCssBlank (h : isCssBlank c = true) : isNameChar c = false := by
  rw [Bool.eq_false_iff, ne_eq, isNameChar_iff, isWordChar_iff, isAsciiLetter_iff,
    isAsciiDigit_iff]
  rw [isCssBlank_iff] at h
  omega

/-- No letter is a blank. -/
theorem isCssBlank_eq_false_of_isNameChar (h : isNameChar c = true) : isCssBlank c = false := by
  rw [Bool.eq_false_iff]
  intro hblank
  rw [isNameChar_eq_false_of_isCssBlank hblank] at h
  cases h

/-- No name character is blank in any script. -/
theorem isBlank_eq_false_of_isNameChar (h : isNameChar c = true) : isBlank c = false := by
  rw [isNameChar_iff, isWordChar_iff, isAsciiLetter_iff, isAsciiDigit_iff] at h
  rw [Bool.eq_false_iff, ne_eq]
  simp only [isBlank, CodeRanges.has, blankRanges, List.any_cons, List.any_nil, Bool.or_eq_true,
    Bool.and_eq_true, decide_eq_true_eq, Bool.or_false]
  omega

/-! ## Letter case -/

theorem toNat_toLower :
    c.toLower.toNat = if 65 ≤ c.toNat ∧ c.toNat ≤ 90 then c.toNat + 32 else c.toNat := by
  have hcapital : c.val ≥ 'A'.val ∧ c.val ≤ 'Z'.val ↔ 65 ≤ c.toNat ∧ c.toNat ≤ 90 := Iff.rfl
  delta Char.toLower
  by_cases h : 65 ≤ c.toNat ∧ c.toNat ≤ 90
  · rw [dif_pos (hcapital.mpr h), if_pos h]
    show (c.val + ('a'.val - 'A'.val)).toNat = c.val.toNat + 32
    have hsmall : c.val.toNat ≤ 90 := h.2
    rw [UInt32.toNat_add]
    exact Nat.mod_eq_of_lt (by show c.val.toNat + 32 < _; omega)
  · rw [dif_neg (mt hcapital.mp h), if_neg h]

/-- Only letters of other scripts are made small in a way of their own. -/
theorem lowercaseChar_of_isNameChar (h : isNameChar c = true) : lowercaseChar c = c.toLower := by
  refine if_neg ?_
  rintro rfl
  exact absurd h (by decide)

/-- What becomes a letter when it is made small was a letter. -/
theorem isAsciiLetter_toLower : isAsciiLetter c.toLower = isAsciiLetter c := by
  rw [Bool.eq_iff_iff, isAsciiLetter_iff, isAsciiLetter_iff, toNat_toLower]
  split <;> omega

/-- Only letters change when they are made small. -/
theorem toLower_eq_self (h : isAsciiLetter c.toLower = false) : c.toLower = c := by
  rw [isAsciiLetter_toLower, Bool.eq_false_iff, ne_eq, isAsciiLetter_iff] at h
  rw [← Char.toNat_inj, toNat_toLower, if_neg (by omega)]

/-- A text without letters is its own small form. -/
theorem map_toLower_eq_self {w v : Text} (h : w.map Char.toLower = v)
    (hv : v.any isAsciiLetter = false) : w = v := by
  rw [List.any_eq_false] at hv
  have hsame : w.map Char.toLower = w.map id := by
    refine List.map_congr_left fun c hc => toLower_eq_self ?_
    exact Bool.eq_false_iff.mpr (hv _ (h ▸ List.mem_map_of_mem hc))
  rw [← h, hsame, List.map_id]

end CssColor
