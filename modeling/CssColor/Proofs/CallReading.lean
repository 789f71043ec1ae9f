import CssColor.Proofs.AlphaReading
import CssColor.Proofs.Reading
import CssColor.Proofs.Rereading

/-!
# Calls are read as they are written

A written call is read value by value: the digits of a number end at a blank or at
the closing parenthesis, and a slash stands before the alpha only.

- `Call.quantity?_plain`: a plain number is read, and what follows it is left.
- `Call.blankValues_cons`, `Call.blankValues_last`, `Call.blankValues_alpha`: the
  values of a call one after the other.
- `Call.exists_reads`: **a plain number is read as the double nearest to it**,
  whatever value ends it; `Call.exists_reads_byte`: a byte is read as it is.
- `Call.read?_three`, `Call.read?_four`: **an RGB call is read as its values**, with an
  alpha behind a slash or without.
-/

namespace CssColor

namespace Call

/-! ## Values -/

/-- A value ends where a blank or the closing parenthesis follows. -/
def EndsValue (rest : Text) : Prop :=
  ∃ c more, rest = c :: more ∧ (c = ' ' ∨ c = ')')

/-- A value starts with a digit. -/
def StartsValue (t : Text) : Prop :=
  ∃ c more, t = c :: more ∧ isAsciiDigit c = true

variable {whole part rest t u : Text}

theorem EndsValue.head (h : EndsValue rest) : ∀ c ∈ rest.head?, isAsciiDigit c = false := by
  obtain ⟨c, more, rfl, hc⟩ := h
  intro d hd
  obtain rfl := Option.some.inj hd
  rcases hc with rfl | rfl <;> rfl

theorem startsValue_append (hwhole : IsDigits whole) (rest : Text) :
    StartsValue (whole ++ rest) := by
  obtain ⟨c, more, rfl⟩ := List.exists_cons_of_ne_nil hwhole.1
  exact ⟨c, more ++ rest, rfl, hwhole.2 c List.mem_cons_self⟩

/-- The digits of a number are read up to its end. -/
theorem mantissa?_plain (hwhole : IsDigits whole) (hpart : ∀ c ∈ part, isAsciiDigit c = true)
    (hrest : EndsValue rest) :
    mantissa? (whole ++ (fractionText part ++ rest)) = some (whole, part, rest) := by
  obtain ⟨htake, hdrop⟩ := takeWhile_digits hwhole.2 (head_fraction part hrest.head)
  obtain ⟨htake', hdrop'⟩ := takeWhile_digits hpart hrest.head
  have hsome : whole.isEmpty = false := List.isEmpty_eq_false_iff.mpr hwhole.1
  rw [mantissa?, spanDigits, htake, hdrop]
  dsimp only
  by_cases hnone : part = []
  · -- the end of the value is no point
    obtain ⟨c, more, rfl, hc⟩ := hrest
    rw [hnone, fractionText, if_pos rfl, List.nil_append, hsome]
    rcases hc with rfl | rfl <;> rfl
  · -- a point counts, as there are digits behind it
    have hdigits : part.isEmpty = false := List.isEmpty_eq_false_iff.mpr hnone
    rw [fractionText, if_neg hnone, List.cons_append]
    show (if (spanDigits (part ++ rest)).1.isEmpty then _
      else some (whole, (spanDigits (part ++ rest)).1, (spanDigits (part ++ rest)).2)) = _
    rw [spanDigits, htake', hdrop', hdigits]
    rfl

/-- What starts with a digit has no sign. -/
theorem number?_of_mantissa? (ht : StartsValue t) (h : mantissa? t = some (whole, part, rest)) :
    number? t =
      some (decimalFloat false (digitsValue (whole ++ part)) ((power rest).1 - part.length),
        (power rest).2) := by
  obtain ⟨c, more, rfl, hc⟩ := ht
  fun_cases number? (c :: more) with
  | case1 negative body hsign =>
    -- the first character is a digit, and so neither of the signs
    have hbody : (negative, body) = (false, c :: more) := by
      rw [← hsign]
      split
      · rename_i heq
        obtain ⟨rfl, -⟩ := List.cons.inj heq
        cases hc
      · rename_i heq
        obtain ⟨rfl, -⟩ := List.cons.inj heq
        cases hc
      · rfl
    obtain ⟨rfl, rfl⟩ := Prod.mk.inj hbody
    rw [h]
    rfl

/-- What starts with a digit and ends at a blank or the parenthesis is a plain number. -/
theorem quantity?_of_number? (ht : StartsValue t) {x : Float} (h : number? t = some (x, rest))
    (hrest : EndsValue rest) : quantity? t = some (.number x, rest) := by
  obtain ⟨c, more, rfl, hc⟩ := ht
  obtain ⟨d, after, rfl, hd⟩ := hrest
  rw [quantity?.eq_def]
  split
  · rename_i heq
    obtain ⟨rfl, -⟩ := List.cons.inj heq
    cases hc
  · -- neither a blank nor the parenthesis starts a unit
    rw [h]
    rcases hd with rfl | rfl <;> rfl

/-- **A plain number is read**, and what follows it is left. -/
theorem quantity?_plain (hwhole : IsDigits whole) (hpart : ∀ c ∈ part, isAsciiDigit c = true)
    (hrest : EndsValue rest) :
    quantity? (whole ++ (fractionText part ++ rest)) =
      some (.number (decimalFloat false (digitsValue (whole ++ part)) (-part.length)), rest) := by
  have hstart := startsValue_append hwhole (fractionText part ++ rest)
  have hnumber := number?_of_mantissa? hstart (mantissa?_plain hwhole hpart hrest)
  have hpower : power rest = (0, rest) := by
    obtain ⟨c, more, rfl, hc⟩ := hrest
    rcases hc with rfl | rfl <;> rfl
  rw [hpower, zero_sub] at hnumber
  exact quantity?_of_number? hstart hnumber hrest

/-! ## Lists of values -/

theorem StartsValue.trimStart (ht : StartsValue t) : t.trimStart = t := by
  obtain ⟨c, more, rfl, hc⟩ := ht
  have hword : isWordChar c = true := isWordChar_iff.mpr (Or.inr (Or.inl hc))
  have hblank := isBlank_eq_false_of_isNameChar (isNameChar_of_isWordChar hword)
  rw [Text.trimStart, List.dropWhile_cons, hblank]
  rfl

/-- A digit is no mark. -/
theorem mark?_of_startsValue {mark : Char} (hmark : isAsciiDigit mark = false)
    (ht : StartsValue t) : mark? mark (' ' :: t) = none := by
  have htrim : Text.trimStart (' ' :: t) = t := ht.trimStart
  obtain ⟨c, more, rfl, hc⟩ := ht
  rw [mark?, htrim]
  dsimp only
  rw [if_neg]
  rintro rfl
  rw [hc] at hmark
  cases hmark

/-- A value with another one behind a blank. -/
theorem blankValues_cons {q : Quantity} (most : Nat) (h : quantity? t = some (q, ' ' :: u))
    (hu : StartsValue u) : blankValues (most + 1) t = (blankValues most u).cons q := by
  rw [blankValues, h]
  dsimp only
  rw [mark?_of_startsValue (by decide) hu]
  exact congrArg (fun t => (blankValues most t).cons q) hu.trimStart

/-- The last value of a call. -/
theorem blankValues_last {q : Quantity} (most : Nat) (h : quantity? t = some (q, [')'])) :
    blankValues (most + 2) t = ⟨[q], false, [')']⟩ := by
  rw [blankValues, h]
  rfl

/-- The last value of a call with an alpha behind a slash. -/
theorem blankValues_alpha {q a : Quantity} (most : Nat)
    (h : quantity? t = some (q, " / ".toList ++ u)) (hu : StartsValue u)
    (ha : quantity? u = some (a, [')'])) : blankValues (most + 1) t = ⟨[q, a], true, [')']⟩ := by
  have hmark : mark? '/' (" / ".toList ++ u) = some u := congrArg some hu.trimStart
  rw [blankValues, h]
  dsimp only
  rw [hmark]
  dsimp only
  rw [ha]

/-! ## Calls -/

/-- A text is read as a value, whatever ends it. -/
structure Reads (t : Text) (q : Quantity) : Prop where
  starts : ∀ rest, StartsValue (t ++ rest)
  quantity : ∀ {rest}, EndsValue rest → quantity? (t ++ rest) = some (q, rest)

theorem endsValue_blank (rest : Text) : EndsValue (' ' :: rest) :=
  ⟨' ', rest, rfl, Or.inl rfl⟩

theorem endsValue_close : EndsValue [')'] :=
  ⟨')', [], rfl, Or.inr rfl⟩

theorem reads_plain (hwhole : IsDigits whole) (hpart : ∀ c ∈ part, isAsciiDigit c = true) :
    Reads (whole ++ fractionText part)
      (.number (decimalFloat false (digitsValue (whole ++ part)) (-part.length))) where
  starts rest := by
    rw [List.append_assoc]
    exact startsValue_append hwhole _
  quantity hrest := by
    rw [List.append_assoc]
    exact quantity?_plain hwhole hpart hrest

/-- **A plain number is read as the double nearest to it.** -/
theorem exists_reads (n : PlainNumber) (hsign : n.negative = false)
    (hsmall : n.value < Binary64.overflow) :
    ∃ x, Reads n.text (.number x) ∧ IsNearest n.value x := by
  have htext : n.text = n.whole ++ fractionText n.part := by
    rw [PlainNumber.text, hsign]
    rfl
  rw [n.value_eq, hsign] at hsmall ⊢
  rw [htext]
  exact ⟨_, reads_plain n.isWholePart.digits n.part_digits,
    isNearest_decimalFloat false _ _ hsmall⟩

/-- A byte is read as it is. -/
theorem exists_reads_byte {n : ℕ} (hn : n ≤ 255) :
    ∃ x, Reads (intText n) (.number x) ∧ (Binary64.ofFloat x).IsFinite ∧ exact x = n := by
  have hreads := reads_plain (isDigits_toDigits n) (List.forall_mem_nil _)
  rw [fractionText, if_pos rfl, List.append_nil, digitsValue_toDigits, List.length_nil,
    Nat.cast_zero, neg_zero] at hreads
  obtain ⟨z, hz, hvalue⟩ := exists_whole (k := n) (by simp only [Nat.pow_eq]; omega)
  rw [Int.cast_natCast] at hvalue
  -- a byte is a double itself, so the nearest one is it
  have hnearest := isNearest_decimalFloat false n 0
  rw [zpow_zero, mul_one, signed, if_neg Bool.false_ne_true, ← hvalue] at hnearest
  have hexact := hnearest ((le_abs_self _).trans_lt (abs_exact_lt_overflow hz))
  exact ⟨_, hreads, hexact.isFinite, (hexact.eq_of_exact hz).trans hvalue⟩

section Calls

variable {x y z a : Text} {p q r s : Quantity}

/-- A call is read value by value. -/
theorem read?_functionText (hx : Reads x p) (hy : Reads y q) (hz : Reads z r) {alpha : Text}
    {values : List Quantity} {slash : Bool}
    (hvalues : blankValues 14 (z ++ (alpha ++ [')'])) = ⟨values, slash, [')']⟩) :
    read? (Rendering.functionText "rgb".toList x y z alpha) =
      some ⟨"rgb".toList, none, p :: q :: values, false, slash⟩ := by
  have htext : Rendering.functionText "rgb".toList x y z alpha =
      "rgb".toList ++ '(' :: (x ++ ' ' :: (y ++ ' ' :: (z ++ (alpha ++ [')'])))) := by
    simp only [Rendering.functionText, List.append_assoc, List.cons_append]
  have hfirst := hx.quantity (endsValue_blank (y ++ ' ' :: (z ++ (alpha ++ [')']))))
  have hsecond := hy.quantity (endsValue_blank (z ++ (alpha ++ [')'])))
  have hall : blankValues mostValues (x ++ ' ' :: (y ++ ' ' :: (z ++ (alpha ++ [')'])))) =
      ⟨p :: q :: values, slash, [')']⟩ := by
    rw [mostValues, blankValues_cons 15 hfirst (hy.starts _),
      blankValues_cons 14 hsecond (hz.starts _), hvalues]
    rfl
  have hmark : mark? ',' (' ' :: (y ++ ' ' :: (z ++ (alpha ++ [')'])))) = none :=
    mark?_of_startsValue (by decide) (hy.starts _)
  rw [htext, read?]
  split
  · rename_i rest hcall
    cases hcall
    show (if "rgb".toList = "color".toList then _
      else if functionNames.contains "rgb".toList then _ else none) = _
    rw [if_neg (by decide), if_pos (by decide), (hx.starts _).trimStart, hfirst]
    dsimp only
    -- no comma follows the first value, so the others are read without any
    rw [hmark, hall]
    rfl
  · rename_i hother
    exact absurd rfl (hother _)

theorem read?_three (hx : Reads x p) (hy : Reads y q) (hz : Reads z r) :
    read? (Rendering.functionText "rgb".toList x y z []) =
      some ⟨"rgb".toList, none, [p, q, r], false, false⟩ :=
  read?_functionText hx hy hz (blankValues_last 12 (hz.quantity endsValue_close))

/-- A fourth value is read behind a slash. -/
theorem read?_four (hx : Reads x p) (hy : Reads y q) (hz : Reads z r) (ha : Reads a s) :
    read? (Rendering.functionText "rgb".toList x y z (" / ".toList ++ a)) =
      some ⟨"rgb".toList, none, [p, q, r, s], false, true⟩ := by
  refine read?_functionText hx hy hz ?_
  rw [List.append_assoc]
  exact blankValues_alpha 13 (hz.quantity (endsValue_blank _)) (ha.starts _)
    (ha.quantity endsValue_close)

end Calls

end Call

end CssColor
