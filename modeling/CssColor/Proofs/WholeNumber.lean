import CssColor.Text.Integer

/-!
# Texts in digits

A text of characters that show digits reads as a whole number, but for two
reasons: a digit in a special form has no value, and there may be too many of
them.

- `has_eq_false`: what lies in one class of characters does not lie in another
  whose ranges are apart from it.
- `not_mark_of_isDigitLike`: what shows a digit is no blank, sign or underscore.
- `exists_digitRun?`: a run of decimal digits has the value of each of them.
- `integer_eq_error_iff`: **the texts in digits that are no number**.
-/

namespace CssColor

variable {c : Char} {t : Text}

/-! ## Characters -/

theorem CodeRanges.has_iff {ranges : CodeRanges} :
    ranges.has c = true ↔ ∃ r ∈ ranges, r.1 ≤ c.toNat ∧ c.toNat ≤ r.2 := by
  simp [has]

/-- A character lies in one range only of those that are apart. -/
theorem CodeRanges.has_eq_false {ranges others : CodeRanges}
    (hapart : ∀ r ∈ ranges, ∀ s ∈ others, r.2 < s.1 ∨ s.2 < r.1) (h : ranges.has c = true) :
    others.has c = false := by
  obtain ⟨r, hr, hlow, hhigh⟩ := has_iff.mp h
  rw [← Bool.not_eq_true, has_iff]
  rintro ⟨s, hs, hlow', hhigh'⟩
  have hrs := hapart r hr s hs
  omega

/-- The digits of all scripts, in their plain and special forms. -/
def digitFormRanges : CodeRanges :=
  digitZeros.map (fun origin => (origin, origin + 9)) ++ specialDigitRanges

/-- The characters that may stand in a whole number or around it and show no digit: the blanks, the
two signs and the underscore. -/
def numberMarkRanges : CodeRanges :=
  blankRanges ++ [(43, 43), (45, 45), (95, 95)]

theorem has_digitFormRanges (h : isDigitLike c = true) : digitFormRanges.has c = true := by
  rw [CodeRanges.has_iff]
  rw [isDigitLike, Bool.or_eq_true, isDecimalDigit, digitValue?, Option.isSome_map,
    List.find?_isSome] at h
  rcases h with ⟨origin, hin, hrange⟩ | hspecial
  · rw [Bool.and_eq_true, decide_eq_true_eq, decide_eq_true_eq] at hrange
    exact ⟨(origin, origin + 9), List.mem_append_left _ (List.mem_map.mpr ⟨origin, hin, rfl⟩),
      hrange.1, Nat.le_of_lt_succ hrange.2⟩
  · obtain ⟨r, hr, hrange⟩ := CodeRanges.has_iff.mp hspecial
    exact ⟨r, List.mem_append_right _ hr, hrange⟩

/-- What shows a digit is no blank, sign or underscore. -/
theorem not_mark_of_isDigitLike (h : isDigitLike c = true) : numberMarkRanges.has c = false :=
  CodeRanges.has_eq_false (by decide +kernel) (has_digitFormRanges h)

theorem ne_of_isDigitLike (h : isDigitLike c = true) : c ≠ '-' ∧ c ≠ '+' ∧ c ≠ '_' := by
  have hmark := not_mark_of_isDigitLike h
  refine ⟨?_, ?_, ?_⟩ <;> rintro rfl <;> cases hmark

namespace Text

theorem isNumberBlank_of_isDigitLike (h : isDigitLike c = true) : isNumberBlank c = false := by
  have hmark := not_mark_of_isDigitLike h
  rw [numberMarkRanges, CodeRanges.has, List.any_append, Bool.or_eq_false_iff] at hmark
  have hblank : isBlank c = false := hmark.1
  rw [isNumberBlank, hblank, Bool.false_and]

theorem isRunChar_of_isDigitLike (h : isDigitLike c = true) : isRunChar c = isDecimalDigit c := by
  have hne : (c == '_') = false := beq_eq_false_iff_ne.mpr (ne_of_isDigitLike h).2.2
  rw [isRunChar, hne, Bool.or_false]

/-! ## Texts -/

theorem trimNumber_eq_self (h : ∀ c ∈ t, isNumberBlank c = false) : t.trimNumber = t := by
  have hdrop : ∀ u : Text, (∀ c ∈ u, isNumberBlank c = false) → u.dropWhile isNumberBlank = u := by
    intro u hu
    cases u with
    | nil => rfl
    | cons c u => rw [List.dropWhile_cons, hu c List.mem_cons_self, if_neg Bool.false_ne_true]
  rw [trimNumber, hdrop t h, hdrop _ fun c hc => h c (List.mem_reverse.mp hc), List.reverse_reverse]

theorem splitSign_eq (h : ∀ c ∈ t, isDigitLike c = true) : t.splitSign = (false, t) := by
  cases t with
  | nil => rfl
  | cons c t =>
    obtain ⟨hminus, hplus, -⟩ := ne_of_isDigitLike (h c List.mem_cons_self)
    rw [splitSign]
    · rintro rest heq
      cases heq
      exact hminus rfl
    · rintro rest heq
      cases heq
      exact hplus rfl

/-- A run of decimal digits has the value of each of them. -/
theorem exists_digitRun? (hne : t ≠ []) (h : ∀ c ∈ t, isDecimalDigit c = true) :
    ∃ digits, digitRun? t = some digits ∧ digits.length = t.length := by
  induction t with
  | nil => exact absurd rfl hne
  | cons c t ih =>
    obtain ⟨d, hd⟩ := Option.isSome_iff_exists.mp (h c List.mem_cons_self)
    cases t with
    | nil =>
      refine ⟨[d], ?_, rfl⟩
      rw [digitRun?, hd]
      rfl
    | cons c' t =>
      have hnext : c' ≠ '_' := by
        have hlike : isDigitLike c' = true := by
          rw [isDigitLike, h c' (by simp), Bool.true_or]
        exact (ne_of_isDigitLike hlike).2.2
      obtain ⟨digits, hdigits, hlength⟩ :=
        ih (List.cons_ne_nil _ _) fun x hx => h x (List.mem_cons_of_mem _ hx)
      refine ⟨d :: digits, ?_, congrArg (· + 1) hlength⟩
      rw [digitRun?, hd, hdigits]
      · exact nofun
      · rintro rest heq
        cases heq
        exact hnext rfl

/-- **A text in digits is no whole number** just if one of them has a special form, or there are
too many of them. -/
theorem integer_eq_error_iff (hne : t ≠ []) (h : ∀ c ∈ t, isDigitLike c = true) :
    (∃ e, t.integer = .error e) ↔
      (∃ c ∈ t, isDecimalDigit c = false) ∨ maxIntegerDigits < t.length := by
  have htrim : t.trimNumber = t :=
    trimNumber_eq_self fun c hc => isNumberBlank_of_isDigitLike (h c hc)
  rw [integer, htrim, splitSign_eq h]
  dsimp only
  by_cases hall : ∀ c ∈ t, isDecimalDigit c = true
  · -- the run is the whole text
    have hrun : ∀ c ∈ t, isRunChar c = true := by
      intro c hc
      rw [isRunChar_of_isDigitLike (h c hc), hall c hc]
    have htake : t.takeWhile isRunChar = t := by
      have happend := @List.takeWhile_append_of_pos _ isRunChar t [] hrun
      simpa using happend
    have hdrop : t.dropWhile isRunChar = [] := by
      have happend := @List.dropWhile_append_of_pos _ isRunChar t [] hrun
      simpa using happend
    obtain ⟨digits, hdigits, hlength⟩ := exists_digitRun? hne hall
    have hnone : ¬ ∃ c ∈ t, isDecimalDigit c = false := by
      rintro ⟨c, hc, hfalse⟩
      rw [hall c hc] at hfalse
      cases hfalse
    rw [htake, hdigits, hdrop, ← hlength]
    dsimp only
    by_cases hlong : digits.length > maxIntegerDigits
    · rw [if_pos hlong]
      exact iff_of_true ⟨_, rfl⟩ (Or.inr hlong)
    · rw [if_neg hlong, if_neg (by simp)]
      exact iff_of_false (fun ⟨_, he⟩ => by cases he) (not_or_intro hnone hlong)
  · -- behind the run, or instead of it, stands a digit without a value
    obtain ⟨c, hc⟩ := Classical.not_forall.mp hall
    obtain ⟨hin, hspecial⟩ := Classical.not_imp.mp hc
    rw [Bool.not_eq_true] at hspecial
    have hbehind : t.dropWhile isRunChar ≠ [] := by
      intro hdrop
      have hsplit := List.takeWhile_append_dropWhile (p := isRunChar) (l := t)
      rw [hdrop, List.append_nil] at hsplit
      have hmem : c ∈ t.takeWhile isRunChar := by rwa [hsplit]
      have hrun := List.all_eq_true.mp List.all_takeWhile c hmem
      rw [isRunChar_of_isDigitLike (h c hin), hspecial] at hrun
      cases hrun
    refine iff_of_true ?_ (Or.inl ⟨c, hin, hspecial⟩)
    simp only [if_pos hbehind]
    split
    · exact ⟨_, rfl⟩
    · split
      · exact ⟨_, rfl⟩
      · exact ⟨_, rfl⟩

end Text

end CssColor
