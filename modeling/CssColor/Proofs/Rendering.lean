import CssColor.Proofs.Except
import CssColor.Proofs.Grammar
import CssColor.Rendering

/-!
# What colours are written as

- `IsNumeral`: a text is made of the characters of numbers. All texts of numbers
  are, whatever the double: `formatNumber_isNumeral`.
- `isCall_of_written`: **every notation but hex is a call** of a colour function,
  so it is a token of the grammar wherever it stands.
- `isHexLiteral_of_written`: **the hex notation is a hex literal**, so it is a
  token where no word character follows it.
-/

namespace CssColor

/-! ## Texts of numbers -/

/-- What numbers are written with: digits, signs, a point, and the letters of exponents and of what
is not finite. -/
def isNumeralChar (c : Char) : Bool :=
  isAsciiDigit c || isAsciiLetter c || c == '+' || c == '-' || c == '.'

/-- A text is made of the characters of numbers. -/
def IsNumeral (t : Text) : Prop :=
  ∀ c ∈ t, isNumeralChar c = true

instance (t : Text) : Decidable (IsNumeral t) :=
  decidable_of_iff (t.all isNumeralChar = true) List.all_eq_true

section Numeral

variable {t u : Text}

theorem IsNumeral.of_subset (h : IsNumeral t) (hsub : u ⊆ t) : IsNumeral u :=
  fun c hc => h c (hsub hc)

theorem IsNumeral.append (h : IsNumeral t) (h' : IsNumeral u) : IsNumeral (t ++ u) := by
  intro c hc
  rcases List.mem_append.mp hc with hc | hc
  · exact h c hc
  · exact h' c hc

theorem IsNumeral.cons {c : Char} (hc : isNumeralChar c = true) (h : IsNumeral t) :
    IsNumeral (c :: t) :=
  List.forall_mem_cons.mpr ⟨hc, h⟩

theorem IsNumeral.take (h : IsNumeral t) (n : Nat) : IsNumeral (t.take n) :=
  h.of_subset (List.take_subset n t)

theorem IsNumeral.drop (h : IsNumeral t) (n : Nat) : IsNumeral (t.drop n) :=
  h.of_subset (List.drop_subset n t)

theorem IsNumeral.reverse (h : IsNumeral t) : IsNumeral t.reverse :=
  fun c hc => h c (List.mem_reverse.mp hc)

theorem IsNumeral.dropWhile (h : IsNumeral t) (p : Char → Bool) : IsNumeral (t.dropWhile p) :=
  h.of_subset (List.dropWhile_subset p)

theorem IsNumeral.close_notMem (h : IsNumeral t) : ')' ∉ t := by
  intro hc
  exact absurd (h _ hc) (by decide)

end Numeral

theorem replicate_isNumeral (n : Nat) : IsNumeral (List.replicate n '0') := by
  intro c hc
  rw [(List.mem_replicate.mp hc).2]
  decide

theorem sign_isNumeral (negative : Bool) : IsNumeral (if negative then ['-'] else []) := by
  cases negative <;> decide

theorem toDigits_isNumeral (n : Nat) : IsNumeral (Nat.toDigits 10 n) := by
  intro c hc
  have hdigit : isAsciiDigit c = true := Nat.isDigit_of_mem_toDigits (by decide) (by decide) hc
  rw [isNumeralChar, hdigit]
  rfl

theorem intText_isNumeral (n : Int) : IsNumeral (intText n) := by
  cases n with
  | ofNat n => exact toDigits_isNumeral n
  | negSucc n => exact .cons (by decide) (toDigits_isNumeral (n + 1))

theorem unitsText_isNumeral (units places : Nat) : IsNumeral (unitsText units places) := by
  have hfilled : ∀ n, IsNumeral (List.replicate n '0' ++ Nat.toDigits 10 units) :=
    fun n => (replicate_isNumeral n).append (toDigits_isNumeral units)
  rw [unitsText]
  by_cases hplaces : places = 0
  · rw [if_pos hplaces]
    exact hfilled _
  · rw [if_neg hplaces]
    exact ((hfilled _).take _).append (.cons (by decide) ((hfilled _).drop _))

theorem shortestDigits_isNumeral (significand : Nat) (exponent : Int) :
    IsNumeral (shortestDigits significand exponent).1 := by
  exact ((toDigits_isNumeral _).reverse.dropWhile _).reverse

theorem positionalText_isNumeral {digits : Text} (h : IsNumeral digits) (place : Int) :
    IsNumeral (positionalText digits place) := by
  have hpoint : IsNumeral "0.".toList := by decide
  have hzero : IsNumeral ".0".toList := by decide
  rw [positionalText]
  split
  · exact (hpoint.append (replicate_isNumeral _)).append h
  · split
    · exact (h.append (replicate_isNumeral _)).append hzero
    · exact (h.take _).append (.cons (by decide) (h.drop _))

theorem exponentText_isNumeral (layout : FloatLayout) {digits : Text} (h : IsNumeral digits)
    (place : Int) : IsNumeral (layout.exponentText digits place) := by
  have hmark : IsNumeral ['e', if place - 1 < 0 then '-' else '+'] := by
    split <;> decide
  have hfraction : IsNumeral (if digits.length ≤ 1 then [] else '.' :: digits.drop 1) := by
    split
    · decide
    · exact .cons (by decide) (h.drop 1)
  exact ((((h.take 1).append hfraction).append hmark).append (replicate_isNumeral _)).append
    (toDigits_isNumeral _)

theorem text_isNumeral (x : Binary64) : IsNumeral (namedLayout.text x) := by
  cases x with
  | nan => decide
  | infinite negative =>
    have hname : IsNumeral "Infinity".toList := by decide
    exact (sign_isNumeral negative).append hname
  | finite negative significand exponent =>
    have hdigits := shortestDigits_isNumeral significand exponent
    refine (sign_isNumeral negative).append ?_
    split
    · decide
    · show IsNumeral (if _ then _ else _)
      split
      · exact positionalText_isNumeral hdigits _
      · exact exponentText_isNumeral namedLayout hdigits _

theorem toFixed_isNumeral {x : Float} {places : Nat} {t : Text} (h : toFixed x places = .ok t) :
    IsNumeral t := by
  rw [toFixed] at h
  cases hx : Binary64.ofFloat x with
  | nan =>
    rw [hx] at h
    cases h
    exact text_isNumeral .nan
  | infinite negative =>
    rw [hx] at h
    cases h
    exact text_isNumeral (.infinite negative)
  | finite negative significand exponent =>
    -- a number that is too large for fixed digits is written as it is without them
    rw [hx] at h
    dsimp only at h
    by_cases hsmall : x.abs < fixedLimit
    · rw [if_pos hsmall] at h
      by_cases hwidth : digitCount (fixedUnits significand exponent places) ≤
          fixedWidth significand exponent places
      · rw [if_pos hwidth] at h
        cases h
        exact (sign_isNumeral negative).append (unitsText_isNumeral _ places)
      · rw [if_neg hwidth] at h
        cases h
    · rw [if_neg hsmall] at h
      cases h
      exact text_isNumeral (.finite negative significand exponent)

theorem trimFraction_isNumeral {t : Text} (h : IsNumeral t) : IsNumeral (trimFraction t) := by
  have hkept := h.reverse.dropWhile (· == '0')
  rw [trimFraction]
  split
  · rename_i whole hwhole
    rw [hwhole] at hkept
    exact (hkept.of_subset (List.subset_cons_self '.' whole)).reverse
  · exact hkept.reverse

theorem dropZeroFraction_isNumeral {t : Text} (h : IsNumeral t) :
    IsNumeral (dropZeroFraction t) := by
  induction t with
  | nil => exact h
  | cons c t ih =>
    obtain ⟨hc, ht⟩ := List.forall_mem_cons.mp h
    rw [dropZeroFraction]
    split
    · exact List.forall_mem_nil _
    · exact .cons hc (ih ht)

theorem shortened_isNumeral (hasFraction : Bool) {t : Text} (h : IsNumeral t) :
    IsNumeral (shortened hasFraction t) := by
  have htrimmed : IsNumeral (if hasFraction then trimFraction t else dropZeroFraction t) := by
    cases hasFraction with
    | false => exact dropZeroFraction_isNumeral h
    | true => exact trimFraction_isNumeral h
  rw [shortened]
  split
  · exact h
  · by_cases hzero : (if hasFraction then trimFraction t else dropZeroFraction t) = "-0".toList
    · have hplain : IsNumeral "0".toList := by decide
      rwa [if_pos hzero]
    · rwa [if_neg hzero]

/-- Whatever is written for a double is made of the characters of numbers. -/
theorem formatNumber_isNumeral {x : Float} {places : Nat} {t : Text}
    (h : formatNumber x places = .ok t) : IsNumeral t := by
  rw [formatNumber] at h
  cases hfixed : toFixed x places with
  | error e =>
    rw [hfixed] at h
    cases h
  | ok fixed =>
    rw [hfixed] at h
    cases h
    exact shortened_isNumeral _ (toFixed_isNumeral hfixed)

/-! ## Bytes -/

/-- A byte is two hexadecimal digits. -/
theorem byteDigits_spelling (n : Int) :
    (byteDigits n).length = 2 ∧ ∀ c ∈ byteDigits n, isHexDigit c = true := by
  have hall : ∀ k : Fin 256, (hexDigits 2 k).length = 2 ∧ (hexDigits 2 k).all isHexDigit = true := by
    decide +kernel
  have hbyte : (clamp n 0 255).toNat < 256 := by
    have hrange := clamp_range n (show (0 : Int) ≤ 255 by decide)
    omega
  obtain ⟨hlength, hdigits⟩ := hall ⟨_, hbyte⟩
  exact ⟨hlength, List.all_eq_true.mp hdigits⟩

/-- Bytes are two hexadecimal digits each. -/
theorem bytes_spelling (ns : List Int) :
    (ns.flatMap byteDigits).length = 2 * ns.length ∧
      ∀ c ∈ ns.flatMap byteDigits, isHexDigit c = true := by
  constructor
  · induction ns with
    | nil => rfl
    | cons n ns ih =>
      rw [List.flatMap_cons, List.length_append, ih, (byteDigits_spelling n).1, List.length_cons]
      omega
  · intro c hc
    obtain ⟨n, -, hin⟩ := List.mem_flatMap.mp hc
    exact (byteDigits_spelling n).2 c hin

/-- Three or four bytes behind a hash are a hex literal. -/
theorem isHexLiteral_bytes (ns : List Int) (h : ns.length = 3 ∨ ns.length = 4) :
    Grammar.IsHexLiteral ('#' :: ns.flatMap byteDigits) := by
  refine ⟨_, ?_, (bytes_spelling ns).2, rfl⟩
  rw [(bytes_spelling ns).1]
  rcases h with h | h
  · rw [h]
    decide
  · rw [h]
    decide

/-! ## Notations -/

section Notation

variable {o : Options} {c : Color} {t : Text}

theorem number_close_notMem {x : Float} (h : Rendering.number o x = .ok t) : ')' ∉ t := by
  rw [Rendering.number] at h
  cases htext : formatNumber x o.precision with
  | error e =>
    rw [htext] at h
    cases h
  | ok text =>
    rw [htext] at h
    cases h
    exact (formatNumber_isNumeral htext).close_notMem

theorem percentage_close_notMem {x : Float} (h : Rendering.percentage o x = .ok t) :
    ')' ∉ t := by
  obtain ⟨digits, hdigits, rfl⟩ := map_eq_ok.mp h
  rw [List.mem_append, not_or]
  exact ⟨number_close_notMem hdigits, by decide⟩

theorem alphaPart_close_notMem (h : Rendering.alphaPart o c = .ok t) : ')' ∉ t := by
  rw [Rendering.alphaPart] at h
  split at h
  · obtain ⟨digits, hdigits, rfl⟩ := map_eq_ok.mp h
    rw [List.mem_append, not_or]
    exact ⟨by decide, number_close_notMem hdigits⟩
  · cases h
    exact List.not_mem_nil

theorem functionText_isCall {name x y z alpha : Text} (hname : Grammar.IsFunctionName name)
    (hx : ')' ∉ x) (hy : ')' ∉ y) (hz : ')' ∉ z) (halpha : ')' ∉ alpha) :
    Grammar.IsCall (Rendering.functionText name x y z alpha) := by
  refine ⟨name, x ++ ' ' :: (y ++ ' ' :: (z ++ alpha)), hname, ?_, ?_⟩
  · simp only [List.mem_append, List.mem_cons, not_or]
    exact ⟨hx, by decide, hy, by decide, hz, halpha⟩
  · simp [Rendering.functionText]

theorem oklch_isCall (h : Rendering.oklch o c = .ok t) : Grammar.IsCall t := by
  obtain ⟨x, hx, h⟩ := bind_eq_ok.mp h
  obtain ⟨y, hy, h⟩ := bind_eq_ok.mp h
  obtain ⟨z, hz, h⟩ := bind_eq_ok.mp h
  obtain ⟨alpha, halpha, h⟩ := bind_eq_ok.mp h
  cases h
  exact functionText_isCall (by decide) (percentage_close_notMem hx) (number_close_notMem hy)
    (number_close_notMem hz) (alphaPart_close_notMem halpha)

theorem raw_isCall {name : Text} (hname : Grammar.IsFunctionName name)
    (h : Rendering.raw name o c = .ok t) : Grammar.IsCall t := by
  obtain ⟨x, hx, h⟩ := bind_eq_ok.mp h
  obtain ⟨y, hy, h⟩ := bind_eq_ok.mp h
  obtain ⟨z, hz, h⟩ := bind_eq_ok.mp h
  obtain ⟨alpha, halpha, h⟩ := bind_eq_ok.mp h
  cases h
  exact functionText_isCall hname (number_close_notMem hx) (number_close_notMem hy)
    (number_close_notMem hz) (alphaPart_close_notMem halpha)

theorem rgb_isCall (h : Rendering.rgb o c = .ok t) : Grammar.IsCall t := by
  obtain ⟨⟨r, g, b⟩, -, h⟩ := bind_eq_ok.mp h
  obtain ⟨alpha, halpha, h⟩ := bind_eq_ok.mp h
  cases h
  exact functionText_isCall (by decide) (intText_isNumeral r).close_notMem
    (intText_isNumeral g).close_notMem (intText_isNumeral b).close_notMem
    (alphaPart_close_notMem halpha)

theorem hsl_isCall (h : Rendering.hsl o c = .ok t) : Grammar.IsCall t := by
  obtain ⟨x, hx, h⟩ := bind_eq_ok.mp h
  obtain ⟨y, hy, h⟩ := bind_eq_ok.mp h
  obtain ⟨z, hz, h⟩ := bind_eq_ok.mp h
  obtain ⟨alpha, halpha, h⟩ := bind_eq_ok.mp h
  cases h
  exact functionText_isCall (by decide) (number_close_notMem hx) (percentage_close_notMem hy)
    (percentage_close_notMem hz) (alphaPart_close_notMem halpha)

/-- **Every notation but hex is a call** of a colour function. -/
theorem isCall_of_written (ho : o.target ≠ .hex) (h : c.written o = .ok t) : Grammar.IsCall t := by
  rw [Color.written] at h
  cases htarget : o.target with
  | oklch =>
    rw [htarget] at h
    exact oklch_isCall h
  | oklab =>
    rw [htarget] at h
    exact raw_isCall (by decide) h
  | lch =>
    rw [htarget] at h
    exact raw_isCall (by decide) h
  | lab =>
    rw [htarget] at h
    exact raw_isCall (by decide) h
  | rgb =>
    rw [htarget] at h
    exact rgb_isCall h
  | hsl =>
    rw [htarget] at h
    exact hsl_isCall h
  | hex => exact absurd htarget ho

/-- **The hex notation is a hex literal**, of three bytes or of four. -/
theorem isHexLiteral_of_written (ho : o.target = .hex) (h : c.written o = .ok t) :
    Grammar.IsHexLiteral t := by
  rw [Color.written, ho] at h
  obtain ⟨⟨r, g, b⟩, -, h⟩ := bind_eq_ok.mp h
  dsimp only at h
  split at h
  · obtain ⟨last, hlast, h⟩ := bind_eq_ok.mp h
    obtain ⟨n, -, rfl⟩ := map_eq_ok.mp (mapError_eq_ok.mp hlast)
    cases h
    simpa using isHexLiteral_bytes [r, g, b, n] (Or.inr rfl)
  · cases h
    simpa using isHexLiteral_bytes [r, g, b] (Or.inl rfl)

end Notation

end CssColor
