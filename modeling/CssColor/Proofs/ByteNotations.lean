import CssColor.Proofs.ByteRounding

/-!
# RGB and hex write the same bytes

Both notations take the bytes of the components, and both write an alpha under
the same conditions: RGB as a number, hex as a fourth byte.

- `IsByteOf`: the byte of a component that may be out of range or not finite.
- `byteValues?`: pairs of hexadecimal digits read as numbers.
- `bytesText_reads`: the digits of bytes read as these bytes.
- `rgbText`, `hexText`: bytes in function notation and as a hex literal;
  `written_rgb`, `written_hex`: what is written of a colour.
- `rgb_agrees_with_hex`: **both notations write the same bytes**, and hex has a
  fourth one exactly where RGB has an alpha.
-/

namespace CssColor

open Binary64

/-! ## The byte of a component -/

/-- The byte of a component: in range it is the scaled component rounded, and what is out of range
or not finite has the byte of an end. -/
structure IsByteOf (x : Float) (n : ℕ) : Prop where
  le : n ≤ 255
  notFinite : ¬ (ofFloat x).IsFinite → n = 0
  below : (ofFloat x).IsFinite → x < 0.0 → n = 0
  above : (ofFloat x).IsFinite → 1.0 < x → n = 255
  within : 0.0 ≤ x → x ≤ 1.0 → roundHalfUp (x * 255.0) = .ok (n : ℤ)

variable {x : Float}

theorem finiteOrZero_of_isFinite (hx : (ofFloat x).IsFinite) : finiteOrZero x = x := by
  obtain ⟨negative, m, e, hvalue⟩ := hx
  rw [finiteOrZero, hvalue]

theorem finiteOrZero_of_not_isFinite (hx : ¬ (ofFloat x).IsFinite) : finiteOrZero x = 0.0 := by
  rw [finiteOrZero]
  split
  · rename_i negative m e hvalue
    exact absurd ⟨negative, m, e, hvalue⟩ hx
  · rfl

/-- **The byte that is written is that of the component.** -/
theorem exists_isByteOf (x : Float) :
    ∃ n, IsByteOf x n ∧ Rendering.byte (finiteOrZero x) = .ok (n : ℤ) := by
  obtain ⟨n, hn, hbyte⟩ := Rendering.exists_byte_le (finiteOrZero x)
  -- an end of the range is near its byte
  have hend : ∀ {k : ℕ}, k ≤ 255 → exact (clampUnit (finiteOrZero x)) = k / 255 → n = k := by
    intro k hk hvalue
    have hround : Rendering.byte (finiteOrZero x) = .ok (k : ℤ) := by
      refine mapError_eq_ok.mpr ((unitValue_clampUnit _).roundHalfUp_of_near hk ?_)
      rw [hvalue, sub_self, abs_zero]
      norm_num
    rw [hbyte] at hround
    exact_mod_cast Except.ok.inj hround
  refine ⟨n, ⟨hn, fun hx => ?_, fun hx hneg => ?_, fun hx hlarge => ?_, fun hlow hhigh => ?_⟩,
    hbyte⟩
  · refine hend (by decide) ?_
    rw [finiteOrZero_of_not_isFinite hx, exact_clampUnit ⟨_, _, _, ofFloat_zero⟩, exact_zero]
    norm_num
  · rw [lt_iff_exact_lt hx ⟨_, _, _, ofFloat_zero⟩, exact_zero] at hneg
    refine hend (by decide) ?_
    rw [finiteOrZero_of_isFinite hx, exact_clampUnit hx,
      max_eq_left ((min_le_right _ _).trans hneg.le)]
    norm_num
  · rw [lt_iff_exact_lt ⟨_, _, _, ofFloat_one⟩ hx, exact_one] at hlarge
    refine hend (by decide) ?_
    rw [finiteOrZero_of_isFinite hx, exact_clampUnit hx, min_eq_left hlarge.le]
    norm_num
  · have hx := unitValue_iff.mpr ⟨hlow, hhigh⟩
    have hround := mapError_eq_ok.mp hbyte
    rw [finiteOrZero_of_isFinite hx.isFinite,
      (unitValue_clampUnit x).roundHalfUp_congr hx hx.exact_clampUnit] at hround
    exact hround

/-! ## Digits of bytes -/

/-- Pairs of hexadecimal digits as numbers. -/
def byteValues? : Text → Option (List ℕ)
  | [] => some []
  | [_] => none
  | high :: low :: t =>
    match hexValue? high, hexValue? low, byteValues? t with
    | some h, some l, some more => some ((16 * h + l) :: more)
    | _, _, _ => none

/-- Bytes in front of others are read on their own. -/
theorem byteValues?_append {s : Text} {ns : List ℕ} (h : byteValues? s = some ns) (t : Text) :
    byteValues? (s ++ t) = (byteValues? t).map (ns ++ ·) := by
  induction s using byteValues?.induct generalizing ns with
  | case1 =>
    cases h
    exact (congrFun Option.map_id _).symm
  | case2 c => cases h
  | case3 high low s a b more hmore hlow hhigh ih =>
    rw [byteValues?, hhigh, hlow, hmore] at h
    cases h
    rw [List.cons_append, List.cons_append, byteValues?, hhigh, hlow, ih hmore]
    cases byteValues? t <;> rfl
  | case4 high low s hnone =>
    rw [byteValues?] at h
    split at h
    · rename_i a b more hhigh hlow hmore
      exact absurd hmore (hnone a b more hhigh hlow)
    · cases h

/-- A byte is in range, and has two digits. -/
theorem byteDigits_eq {n : ℕ} (hn : n ≤ 255) : byteDigits n = hexDigits 2 n := by
  rw [byteDigits, clamp_of_range (by omega) (by omega), Int.toNat_natCast]

/-- The digits of a byte are small, and read as that byte. -/
theorem byteDigits_reads {n : ℕ} (hn : n ≤ 255) :
    byteValues? (byteDigits n) = some [n] ∧
      ∀ d ∈ byteDigits n, isHexDigit d = true ∧ lowercaseChar d = d := by
  have hall : ∀ n : Fin 256, byteValues? (hexDigits 2 n) = some [(n : ℕ)] ∧
      (hexDigits 2 n).all (fun d => decide (isHexDigit d = true ∧ lowercaseChar d = d)) = true := by
    decide +kernel
  obtain ⟨hvalue, hsmall⟩ := hall ⟨n, by omega⟩
  rw [byteDigits_eq hn]
  exact ⟨hvalue, fun d hd => of_decide_eq_true (List.all_eq_true.mp hsmall d hd)⟩

/-- The digits of bytes. -/
def bytesText (ns : List ℕ) : Text :=
  ns.flatMap fun n : ℕ => byteDigits n

theorem length_bytesText (ns : List ℕ) : (bytesText ns).length = 2 * ns.length := by
  induction ns with
  | nil => rfl
  | cons n ns ih =>
    rw [bytesText, List.flatMap_cons, List.length_append, (byteDigits_spelling n).1, ← bytesText, ih,
      List.length_cons]
    omega

/-- **The digits of bytes read as these bytes.** -/
theorem bytesText_reads {ns : List ℕ} (hns : ∀ n ∈ ns, n ≤ 255) :
    byteValues? (bytesText ns) = some ns ∧
      ∀ d ∈ bytesText ns, isHexDigit d = true ∧ lowercaseChar d = d := by
  induction ns with
  | nil => exact ⟨rfl, List.forall_mem_nil _⟩
  | cons n ns ih =>
    obtain ⟨hvalue, hdigits⟩ := byteDigits_reads (hns n List.mem_cons_self)
    obtain ⟨hvalues, hmore⟩ := ih fun m hm => hns m (List.mem_cons_of_mem n hm)
    rw [bytesText, List.flatMap_cons, byteValues?_append hvalue, ← bytesText, hvalues]
    exact ⟨rfl, fun d hd => (List.mem_append.mp hd).elim (hdigits d) (hmore d)⟩

/-- Bytes as a hex literal. -/
def hexText (ns : List ℕ) : Text :=
  '#' :: bytesText ns

/-- Three bytes in function notation. -/
def rgbText (r g b : ℕ) (alpha : Text) : Text :=
  Rendering.functionText "rgb".toList (intText r) (intText g) (intText b) alpha

/-- Two digits are written for a byte, also where it is rounded once more. -/
theorem hexByte_toFloat {n : ℕ} (hn : n ≤ 255) : hexByte n.toFloat = .ok (byteDigits n) :=
  map_eq_ok.mpr ⟨n, roundHalfUp_toFloat hn, rfl⟩

/-! ## Both notations -/

namespace Rendering

/-- What RGB and hex write of one colour: the bytes of its components and of its alpha, and the text
of the alpha. Hex rounds each byte once more, which leaves it as it is. -/
structure SameBytes (o : Options) (c : Color) (r g b n : ℕ) (alpha digits : Text) : Prop where
  red : IsByteOf c.channels.x r
  green : IsByteOf c.channels.y g
  blue : IsByteOf c.channels.z b
  opacity : n ≤ 255 ∧ roundHalfUp (definedAlpha c * 255.0) = .ok (n : ℤ)
  opacityText : number o (definedAlpha c) = .ok alpha
  rgb : c.written { o with target := .rgb } =
    .ok (functionText "rgb".toList (intText r) (intText g) (intText b)
      (if writesAlpha o (definedAlpha c) then " / ".toList ++ alpha else []))
  hex : c.written { o with target := .hex } = .ok ('#' :: digits)
  small : ∀ d ∈ digits, isHexDigit d = true ∧ lowercaseChar d = d
  length : digits.length = if writesAlpha o (definedAlpha c) then 8 else 6
  values : byteValues? digits =
    some ([r, g, b] ++ if writesAlpha o (definedAlpha c) then [n] else [])
  again : ∀ v ∈ [r, g, b], hexByte v.toFloat = .ok (byteDigits v)

variable {o : Options} {c : Color} {r g b a : ℕ}

/-- Three bytes in function notation, with the alpha if it is written. -/
theorem written_rgb (ho : o.target = .rgb) (hbytes : bytes c = .ok ((r : ℤ), (g : ℤ), (b : ℤ)))
    {t : Text} (ht : number o (definedAlpha c) = .ok t) :
    c.written o =
      .ok (rgbText r g b (if writesAlpha o (definedAlpha c) then " / ".toList ++ t else [])) := by
  rw [Color.written, ho]
  exact (rgb_eq hbytes).trans (map_eq_ok.mpr ⟨_, alphaPart_eq ht, rfl⟩)

/-- The alpha of a colour is from zero to one; an undefined one is one. -/
theorem unitValue_definedAlpha (h : 0.0 ≤ c.alpha ∧ c.alpha ≤ 1.0 ∨ c.alpha.isNaN = true) :
    UnitValue (definedAlpha c) := by
  rw [definedAlpha]
  by_cases hnan : c.alpha.isNaN = true
  · rw [if_pos hnan]
    exact unitValue_one
  · rw [if_neg hnan]
    exact unitValue_iff.mpr (h.resolve_right hnan)

/-- Three bytes as a hex literal, with that of the alpha if it is written. -/
theorem written_hex (ho : o.target = .hex) (hbytes : bytes c = .ok ((r : ℤ), (g : ℤ), (b : ℤ)))
    (hunit : UnitValue (definedAlpha c))
    (ha : roundHalfUp (definedAlpha c * 255.0) = .ok (a : ℤ)) :
    c.written o =
      .ok (hexText ([r, g, b] ++ if writesAlpha o (definedAlpha c) then [a] else [])) := by
  have hlast : hexByte (clampUnit (definedAlpha c) * 255.0) = .ok (byteDigits a) := by
    refine map_eq_ok.mpr ⟨a, ?_, rfl⟩
    rw [(unitValue_clampUnit _).roundHalfUp_congr hunit hunit.exact_clampUnit, ha]
  rw [Color.written, ho, hexText, bytesText]
  refine (hex_eq hbytes hlast).trans ?_
  cases writesAlpha o (definedAlpha c) <;> simp

/-- **RGB and hex write the same bytes**, and hex has a fourth one exactly where RGB has an
alpha. -/
theorem rgb_agrees_with_hex (halpha : 0.0 ≤ c.alpha ∧ c.alpha ≤ 1.0 ∨ c.alpha.isNaN = true)
    (o : Options) : ∃ r g b n alpha digits, SameBytes o c r g b n alpha digits := by
  obtain ⟨r, hred, hr⟩ := exists_isByteOf c.channels.x
  obtain ⟨g, hgreen, hg⟩ := exists_isByteOf c.channels.y
  obtain ⟨b, hblue, hb⟩ := exists_isByteOf c.channels.z
  have hunit := unitValue_definedAlpha halpha
  obtain ⟨n, hn, hround⟩ := hunit.exists_roundHalfUp
  have hbytes : bytes c = .ok ((r : ℤ), (g : ℤ), (b : ℤ)) :=
    bind_eq_ok.mpr ⟨r, hr, bind_eq_ok.mpr ⟨g, hg, bind_eq_ok.mpr ⟨b, hb, rfl⟩⟩⟩
  obtain ⟨alpha, hnumber, -⟩ := exists_number o (definedAlpha c)
  have hle : ∀ v ∈ [r, g, b] ++ if writesAlpha o (definedAlpha c) then [n] else [], v ≤ 255 := by
    intro v hv
    rcases List.mem_append.mp hv with hchannel | hopacity
    · simp only [List.mem_cons, List.not_mem_nil, or_false] at hchannel
      rcases hchannel with rfl | rfl | rfl
      · exact hred.le
      · exact hgreen.le
      · exact hblue.le
    · split at hopacity
      · rwa [List.mem_singleton.mp hopacity]
      · cases hopacity
  refine ⟨r, g, b, n, alpha,
    bytesText ([r, g, b] ++ if writesAlpha o (definedAlpha c) then [n] else []), ?_⟩
  exact
    { red := hred
      green := hgreen
      blue := hblue
      opacity := ⟨hn, hround⟩
      opacityText := hnumber
      rgb := written_rgb rfl hbytes hnumber
      hex := written_hex rfl hbytes hunit hround
      small := (bytesText_reads hle).2
      length := by
        rw [length_bytesText]
        cases writesAlpha o (definedAlpha c) <;> rfl
      values := (bytesText_reads hle).1
      again := fun v hv => hexByte_toFloat (hle v (List.mem_append_left _ hv)) }

/-- A colour with one component above the range and one that is no number, half transparent. -/
theorem rgb_agrees_with_hex_outside :
    (0.0 ≤ (0.5 : Float) ∧ (0.5 : Float) ≤ 1.0 ∨ (0.5 : Float).isNaN = true) ∧
      ∃ r g b n alpha digits,
        SameBytes ⟨.rgb, 2, true, false⟩ ⟨.srgb, ⟨1.5, undefinedComponent, 0.2⟩, 0.5⟩
          r g b n alpha digits := by
  have halpha : 0.0 ≤ (0.5 : Float) ∧ (0.5 : Float) ≤ 1.0 := by decide
  exact ⟨Or.inl halpha, rgb_agrees_with_hex
    (c := ⟨.srgb, ⟨1.5, undefinedComponent, 0.2⟩, 0.5⟩) (Or.inl halpha) ⟨.rgb, 2, true, false⟩⟩

end Rendering

end CssColor
