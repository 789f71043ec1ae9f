import CssColor.Json.Printer
import CssColor.Json.Reader
import CssColor.Proofs.PlainNumber

/-!
# Written strings and whole numbers are read back

A string is written character by character: some have an escape of one letter,
others one of four digits, and those that do not fit into four digits have two.
A whole number is written with its digits, which end where none follows.

- `exists_unit`: four digits are read as the number that they were written for.
- `Escaped`: the four ways in which a character is written.
- `stringBody?_escapeChar`: **every character is read back from what it is written
  as**; `stringBody?_flatMap`: so is every string.
- `EndsNumber`: what may follow a number.
- `number?_intText`: **a whole number is read back** from its digits, if there are
  not too many of them.
-/

namespace CssColor

namespace Json

/-! ## Hexadecimal digits -/

/-- The last of several digits is the remainder. -/
theorem hexDigits_succ {width : Nat} (hwidth : 0 < width) (n : Nat) :
    hexDigits (width + 1) n = hexDigits width (n / 16) ++ [(n % 16).digitChar] := by
  unfold hexDigits
  by_cases hn : n < 16
  · obtain ⟨more, rfl⟩ : ∃ more, width = more + 1 := ⟨width - 1, by omega⟩
    rw [Nat.toDigits_of_lt_base hn, Nat.div_eq_of_lt hn, Nat.mod_eq_of_lt hn,
      Nat.toDigits_of_lt_base (by decide : 0 < 16)]
    simp [List.replicate_succ']
  · rw [Nat.toDigits_of_base_le (by decide) (by omega)]
    simp

/-- A number of sixteen bits has four digits. -/
theorem hexDigits_four {n : Nat} (hn : n < 0x10000) :
    hexDigits 4 n = [(n / 16 / 16 / 16).digitChar, (n / 16 / 16 % 16).digitChar,
      (n / 16 % 16).digitChar, (n % 16).digitChar] := by
  rw [hexDigits_succ (by decide), hexDigits_succ (by decide), hexDigits_succ (by decide),
    hexDigits, Nat.toDigits_of_lt_base (by omega)]
  rfl

theorem hexValue?_digitChar {d : Nat} (hd : d < 16) : hexValue? d.digitChar = some d := by
  have hall : ∀ d : Fin 16, hexValue? d.val.digitChar = some d.val := by decide
  exact hall ⟨d, hd⟩

/-- **Four digits are read as the number that they were written for.** -/
theorem exists_unit {n : Nat} (hn : n < 0x10000) :
    ∃ a b c d, hexDigits 4 n = [a, b, c, d] ∧ unit? a b c d = some n := by
  refine ⟨_, _, _, _, hexDigits_four hn, ?_⟩
  rw [unit?, hexValue?_digitChar (by omega), hexValue?_digitChar (by omega),
    hexValue?_digitChar (by omega), hexValue?_digitChar (by omega)]
  show some _ = some n
  congr 1
  omega

/-! ## Characters -/

section Characters

variable {c x : Char} {n : Nat}

/-- A character that stands for itself. -/
theorem stringBody?_plain (hquote : c ≠ '"') (hslash : c ≠ '\\') (hlow : 0x20 ≤ c.toNat)
    (t : Text) :
    stringBody? (c :: t) = (stringBody? t).map fun (s, left) => (c :: s, left) := by
  rw [stringBody?.eq_def]
  split
  · rename_i heq
    cases heq
  · rename_i heq
    cases heq
    exact absurd rfl hquote
  · rename_i heq
    cases heq
    exact absurd rfl hslash
  · rename_i heq
    cases heq
    exact absurd rfl hslash
  · rename_i heq
    cases heq
    rw [if_neg]
    rintro (h | h)
    · exact hslash h
    · omega

/-- An escape of one letter. -/
theorem stringBody?_simple (hc : c ≠ 'u') (hx : simpleEscape? c = some x) (t : Text) :
    stringBody? ('\\' :: c :: t) = (stringBody? t).map fun (s, left) => (x :: s, left) := by
  rw [stringBody?.eq_def]
  split
  · rename_i heq
    cases heq
  · rename_i heq
    cases heq
  · rename_i heq
    cases heq
    exact absurd rfl hc
  · rename_i heq
    cases heq
    rw [hx]
  · rename_i hescape heq
    cases heq
    exact (hescape _ _ rfl rfl).elim

/-- An escape of four digits that is no half of a pair. -/
theorem stringBody?_unit (hn : n < 0x10000) (hwhole : ¬ (0xd800 ≤ n ∧ n < 0xe000)) (t : Text) :
    stringBody? (unitEscape n ++ t) =
      (stringBody? t).map fun (s, left) => (Char.ofNat n :: s, left) := by
  obtain ⟨a, b, c, d, hdigits, hunit⟩ := exists_unit hn
  rw [unitEscape, hdigits]
  show stringBody? ('\\' :: 'u' :: a :: b :: c :: d :: t) = _
  rw [stringBody?, hunit]
  dsimp only
  rw [if_neg (by omega), if_neg (by omega)]

/-- Two escapes that are the halves of a pair. -/
theorem stringBody?_pair {high low : Nat} (hhigh : 0xd800 ≤ high ∧ high < 0xdc00)
    (hlow : 0xdc00 ≤ low ∧ low < 0xe000) (t : Text) :
    stringBody? (unitEscape high ++ (unitEscape low ++ t)) =
      (stringBody? t).map fun (s, left) =>
        (Char.ofNat (0x10000 + (high - 0xd800) * 0x400 + (low - 0xdc00)) :: s, left) := by
  obtain ⟨a, b, c, d, hdigits, hunit⟩ := exists_unit (n := high) (by omega)
  obtain ⟨e, f, g, h, hdigits', hunit'⟩ := exists_unit (n := low) (by omega)
  rw [unitEscape, hdigits, unitEscape, hdigits']
  show stringBody? ('\\' :: 'u' :: a :: b :: c :: d :: '\\' :: 'u' :: e :: f :: g :: h :: t) = _
  rw [stringBody?, hunit]
  dsimp only
  rw [if_pos hhigh]
  split
  · rename_i heq
    cases heq
    rw [hunit', Option.bind_some, pairChar?, if_pos hlow]
  · rename_i hother
    exact (hother _ _ _ _ _ rfl).elim

end Characters

/-- No character is a half of a pair. -/
theorem toNat_cases (c : Char) : c.toNat < 0xd800 ∨ 0xe000 ≤ c.toNat ∧ c.toNat < 0x110000 :=
  c.valid.imp_right fun h => ⟨h.1, h.2⟩

/-- The ways in which a character is written. -/
inductive Escaped (c : Char) : Text → Prop
  | letter {d : Char} (hd : simpleEscape? d = some c) (hletter : d ≠ 'u')
      (hascii : d.toNat < 0x80) : Escaped c ['\\', d]
  | plain (hquote : c ≠ '"') (hslash : c ≠ '\\') (hseen : 0x20 ≤ c.toNat ∧ c.toNat < 0x7f) :
      Escaped c [c]
  | unit (hshort : c.toNat < 0x10000) : Escaped c (unitEscape c.toNat)
  | pair (hlong : 0x10000 ≤ c.toNat) :
      Escaped c (unitEscape (0xd800 + (c.toNat - 0x10000) / 0x400) ++
        unitEscape (0xdc00 + (c.toNat - 0x10000) % 0x400))

/-- Every character is written in one of these ways. -/
theorem escaped_escapeChar (c : Char) : Escaped c (escapeChar c) := by
  rw [escapeChar]
  split_ifs with hquote hslash hfeed hreturn htab hback hform hseen hshort
  · subst hquote
    exact .letter rfl (by decide) (by decide)
  · subst hslash
    exact .letter rfl (by decide) (by decide)
  · subst hfeed
    exact .letter rfl (by decide) (by decide)
  · subst hreturn
    exact .letter rfl (by decide) (by decide)
  · subst htab
    exact .letter rfl (by decide) (by decide)
  · subst hback
    exact .letter rfl (by decide) (by decide)
  · subst hform
    exact .letter rfl (by decide) (by decide)
  · exact .plain hquote hslash hseen
  · exact .unit hshort
  · exact .pair (Nat.le_of_not_lt hshort)

/-- **Every character is read back from what it is written as**, whatever follows it. -/
theorem stringBody?_escapeChar (c : Char) (t : Text) :
    stringBody? (escapeChar c ++ t) = (stringBody? t).map fun (s, left) => (c :: s, left) := by
  have hrange := toNat_cases c
  have hescaped := escaped_escapeChar c
  generalize escapeChar c = written at hescaped ⊢
  cases hescaped with
  | letter hd hletter _ => exact stringBody?_simple hletter hd t
  | plain hquote hslash hseen => exact stringBody?_plain hquote hslash hseen.1 t
  | unit hshort => rw [stringBody?_unit hshort (by omega), Char.ofNat_toNat]
  | pair hlong =>
    -- the two halves hold ten bits each of what is above 2^16
    have hcode : 0x10000 + (0xd800 + (c.toNat - 0x10000) / 0x400 - 0xd800) * 0x400 +
        (0xdc00 + (c.toNat - 0x10000) % 0x400 - 0xdc00) = c.toNat := by omega
    rw [List.append_assoc, stringBody?_pair (by omega) (by omega), hcode, Char.ofNat_toNat]

example : escapeChar '𝄞' = "\\ud834\\udd1e".toList := by decide

/-- **Every string is read back** up to its closing quote. -/
theorem stringBody?_flatMap (s t : Text) :
    stringBody? (s.flatMap escapeChar ++ '"' :: t) = some (s, t) := by
  induction s with
  | nil => rfl
  | cons c s ih =>
    rw [List.flatMap_cons, List.append_assoc, stringBody?_escapeChar, ih]
    rfl

/-! ## Whole numbers -/

/-- A number ends where neither a digit nor a point nor the letter of a power follows. -/
def EndsNumber (rest : Text) : Prop :=
  ∀ c ∈ rest.head?, isAsciiDigit c = false ∧ c ≠ '.' ∧ c ≠ 'e' ∧ c ≠ 'E'

section Numbers

variable {limit : DigitLimit} {c : Char} {rest : Text}

theorem endsNumber_nil : EndsNumber [] := by
  intro c hc
  cases hc

theorem endsNumber_cons (hc : isAsciiDigit c = false ∧ c ≠ '.' ∧ c ≠ 'e' ∧ c ≠ 'E') :
    EndsNumber (c :: rest) := by
  intro d hd
  cases hd
  exact hc

theorem fraction?_of_endsNumber (h : EndsNumber rest) : fraction? rest = some (none, rest) := by
  rw [fraction?.eq_def]
  split
  · exact absurd rfl (h '.' rfl).2.1
  · rfl

theorem exponent?_of_endsNumber (h : EndsNumber rest) : exponent? rest = some (none, rest) := by
  have hletter : ∀ {d : Char} {more : Text}, rest = d :: more → ¬ (d = 'e' ∨ d = 'E') := by
    rintro d more rfl
    have hd := h d rfl
    rintro (rfl | rfl)
    · exact hd.2.2.1 rfl
    · exact hd.2.2.2 rfl
  rw [exponent?.eq_def]
  split
  · exact if_neg (hletter rfl)
  · exact if_neg (hletter rfl)
  · exact if_neg (hletter rfl)
  · rfl

/-- The digits of a number are read as that number, if there are not too many. -/
theorem magnitude?_natText (negative : Bool) (n : Nat) (h : EndsNumber rest) :
    magnitude? limit negative (natText n ++ rest) =
      (limit.check (if negative then -(n : Int) else n)).toOption.map fun _ =>
        (int (if negative then -(n : Int) else n), rest) := by
  obtain ⟨hne, hdigits⟩ := isDigits_toDigits n
  obtain ⟨htake, hdrop⟩ := takeWhile_digits hdigits fun c hc => (h c hc).1
  have hsome : (natText n).isEmpty = false := List.isEmpty_eq_false_iff.mpr hne
  have hlead : ((natText n).head? == some '0' && decide (1 < (natText n).length)) = false := by
    rw [Bool.and_eq_false_iff]
    by_cases hzero : (natText n).head? = some '0'
    · obtain rfl := eq_zero_of_head_toDigits n hzero
      exact Or.inr (by decide)
    · exact Or.inl (beq_eq_false_iff_ne.mpr hzero)
  unfold magnitude? digits
  rw [natText] at hsome hlead ⊢
  rw [htake, hdrop]
  dsimp only
  rw [hsome, hlead, fraction?_of_endsNumber h]
  simp only [Bool.or_self, Bool.false_eq_true, if_false, Option.bind_eq_bind, Option.bind_some,
    exponent?_of_endsNumber h]
  have hvalue : Nat.ofDigitChars 10 (Nat.toDigits 10 n) 0 = n := digitsValue_toDigits n
  rw [hvalue]
  cases limit.check (if negative then -(n : Int) else n) <;> rfl

/-- What starts with a digit has no sign and no name. -/
theorem number?_of_digit (hc : isAsciiDigit c = true) (t : Text) :
    number? limit (c :: t) = magnitude? limit false (c :: t) := by
  rw [number?.eq_def]
  split
  · rename_i heq
    cases heq
    cases hc
  · rename_i heq
    cases heq
    cases hc
  · rename_i heq
    cases heq
    cases hc
  · rename_i heq
    cases heq
    cases hc
  · rfl

/-- Nor has what starts with a hyphen and a digit a name. -/
theorem number?_of_minus (hc : isAsciiDigit c = true) (t : Text) :
    number? limit ('-' :: c :: t) = magnitude? limit true (c :: t) := by
  rw [number?.eq_def]
  split
  · rename_i heq
    cases heq
  · rename_i heq
    cases heq
  · rename_i heq
    cases heq
    cases hc
  · rename_i heq
    cases heq
    rfl
  · rename_i hminus
    exact (hminus _ rfl).elim

theorem exists_natText (k : Nat) : ∃ c more, natText k = c :: more ∧ isAsciiDigit c = true := by
  obtain ⟨hne, hdigits⟩ := isDigits_toDigits k
  obtain ⟨c, more, heq⟩ := List.exists_cons_of_ne_nil hne
  exact ⟨c, more, heq, hdigits c (heq ▸ List.mem_cons_self)⟩

/-- A whole number starts with a digit or a sign. -/
theorem exists_intText (n : Int) :
    ∃ c more, intText n = c :: more ∧ (isAsciiDigit c = true ∨ c = '-') := by
  cases n with
  | ofNat k =>
    obtain ⟨c, more, heq, hc⟩ := exists_natText k
    exact ⟨c, more, heq, Or.inl hc⟩
  | negSucc k => exact ⟨'-', natText (k + 1), rfl, Or.inr rfl⟩

/-- **A whole number is read back** from its digits, if there are not too many. -/
theorem number?_intText (n : Int) (h : EndsNumber rest) :
    number? limit (intText n ++ rest) =
      (limit.check n).toOption.map fun _ => (int n, rest) := by
  cases n with
  | ofNat k =>
    obtain ⟨c, more, heq, hc⟩ := exists_natText k
    show number? limit (natText k ++ rest) = _
    rw [heq, List.cons_append, number?_of_digit hc, ← List.cons_append, ← heq,
      magnitude?_natText false k h]
    rfl
  | negSucc k =>
    obtain ⟨c, more, heq, hc⟩ := exists_natText (k + 1)
    show number? limit ('-' :: (natText (k + 1) ++ rest)) = _
    rw [heq, List.cons_append, number?_of_minus hc, ← List.cons_append, ← heq,
      magnitude?_natText true (k + 1) h]
    rfl

end Numbers

end Json

end CssColor
