import CssColor.Proofs.ByteReading
import CssColor.Proofs.Idempotence
import CssColor.Proofs.Opacity

/-!
# What is written as bytes converts to itself

A token is read, its alpha is classified, and its colour is written in bytes. What
is written goes the same way once more: its components are near their bytes and have
those bytes again, an alpha that was written counts as spelled out and is written
again, and one that was not is one.

- `ColorScience.ReadsBytes`: what is expected of a library for colours, and
  `ColorScience.readsBytes_own`: **the readers of this development do that**.
- `exists_alphaNumber`: the number that is written for an alpha stands for itself
  once it is read.
- `ReadsBytes.convertToken_rgbText`, `ReadsBytes.convertToken_hexText`: bytes convert to
  themselves, and so they do with an alpha that is spelled out; so
  `ReadsBytes.rewrites_rgb`, `ReadsBytes.rewrites_hex`: what is written in either
  notation is written again.
- `convertToken_fixpoint`: **a token that was converted to bytes converts to itself**,
  if an alpha that was spelled out is kept.
-/

namespace CssColor

open Binary64

/-! ## Colour science -/

namespace ColorScience

/-- What is expected of a library: bytes are read as a colour of sRGB with each component near its
byte; the alpha is the double nearest to the number that is written, or near the byte, or one where
there is none; and every alpha is from zero to one or undefined, whatever is read or converted. -/
structure ReadsBytes (s : ColorScience) : Prop where
  rgb : ∀ {r g b : ℕ}, r ≤ 255 → g ≤ 255 → b ≤ 255 →
    ∃ c, s.parse? (rgbText r g b []) = some c ∧ c.ShowsBytes r g b ∧ c.alpha = 1.0
  rgbAlpha : ∀ {r g b : ℕ} {n : PlainNumber}, r ≤ 255 → g ≤ 255 → b ≤ 255 →
    n.negative = false → n.value ≤ 1 →
    ∃ c, s.parse? (rgbText r g b (" / ".toList ++ n.text)) = some c ∧ c.ShowsBytes r g b ∧
      IsNearest n.value c.alpha
  hex : ∀ {r g b : ℕ}, r ≤ 255 → g ≤ 255 → b ≤ 255 →
    ∃ c, s.parse? (hexText [r, g, b]) = some c ∧ c.ShowsBytes r g b ∧ c.alpha = 1.0
  hexAlpha : ∀ {r g b a : ℕ}, r ≤ 255 → g ≤ 255 → b ≤ 255 → a ≤ 255 →
    ∃ c, s.parse? (hexText [r, g, b, a]) = some c ∧ c.ShowsBytes r g b ∧ NearByte c.alpha a
  read : ∀ {token : Text} {c : Color}, s.library.read? token = some c → InRange c.alpha
  converted : ∀ {c c' : Color} {space : Space}, s.convert? c space = some c' →
    InRange c.alpha → InRange c'.alpha

/-- **The readers of this development read bytes.** -/
theorem readsBytes_own : own.ReadsBytes where
  rgb hr hg hb := by
    rw [parse?_own]
    exact Color.parse?_rgbText hr hg hb
  rgbAlpha hr hg hb hsign hone := by
    rw [parse?_own]
    exact Color.parse?_rgbText_alpha hr hg hb hsign hone
  hex hr hg hb := by
    rw [parse?_own]
    exact Color.parse?_hexText hr hg hb
  hexAlpha hr hg hb ha := by
    rw [parse?_own]
    exact Color.parse?_hexText_alpha hr hg hb ha
  read h := by
    rw [library_own] at h
    exact read?_alpha ofAlphas_inRange h
  converted h hrange := by
    rw [alpha_of_inSpace? h]
    exact hrange

end ColorScience

/-! ## Colours once they are read -/

/-- A number from zero to one is rounded to one from zero to one. -/
theorem IsRounding.mem_unit {places : ℕ} {q d : ℚ} (h : IsRounding places q d) (hlow : 0 ≤ q)
    (hhigh : q ≤ 1) : 0 ≤ d ∧ d ≤ 1 := by
  have hzero := h.nearest 0
  have hone := h.nearest (10 ^ places)
  rw [Int.cast_zero, zero_div, zero_sub, abs_neg, abs_of_nonneg hlow] at hzero
  rw [Int.cast_pow, Int.cast_ofNat, div_self (IsRounding.unit_pos places).ne',
    abs_of_nonneg (sub_nonneg.mpr hhigh)] at hone
  obtain ⟨hleft, -⟩ := abs_le.mp hzero
  obtain ⟨-, hright⟩ := abs_le.mp hone
  exact ⟨by linarith, by linarith⟩

namespace Rendering

variable {o : Options} {c : Color} {r g b : ℕ}

/-- Every colour has three bytes. -/
theorem exists_bytes_le (c : Color) : ∃ r g b : ℕ, r ≤ 255 ∧ g ≤ 255 ∧ b ≤ 255 ∧
    bytes c = .ok ((r : ℤ), (g : ℤ), (b : ℤ)) := by
  obtain ⟨r, hr, hred⟩ := exists_byte_le (finiteOrZero c.channels.x)
  obtain ⟨g, hg, hgreen⟩ := exists_byte_le (finiteOrZero c.channels.y)
  obtain ⟨b, hb, hblue⟩ := exists_byte_le (finiteOrZero c.channels.z)
  exact ⟨r, g, b, hr, hg, hb,
    bind_eq_ok.mpr ⟨r, hred, bind_eq_ok.mpr ⟨g, hgreen, bind_eq_ok.mpr ⟨b, hblue, rfl⟩⟩⟩⟩

/-- **A colour with components near three bytes has these bytes.** -/
theorem bytes_of_showsBytes (h : c.ShowsBytes r g b) (hr : r ≤ 255) (hg : g ≤ 255) (hb : b ≤ 255) :
    bytes c = .ok ((r : ℤ), (g : ℤ), (b : ℤ)) := by
  have hbyte : ∀ {x : Float} {n : ℕ}, n ≤ 255 → NearByte x n →
      byte (finiteOrZero x) = .ok (n : ℤ) := by
    intro x n hn hnear
    rw [finiteOrZero_of_isFinite hnear.isFinite]
    exact byte_of_near hn hnear
  exact bind_eq_ok.mpr ⟨r, hbyte hr h.red, bind_eq_ok.mpr ⟨g, hbyte hg h.green,
    bind_eq_ok.mpr ⟨b, hbyte hb h.blue, rfl⟩⟩⟩

theorem definedAlpha_of_isFinite (h : (ofFloat c.alpha).IsFinite) : definedAlpha c = c.alpha := by
  rw [definedAlpha, isNaN_eq_false h, if_neg Bool.false_ne_true]

theorem unitValue_of_inRange (h : InRange c.alpha) : UnitValue (definedAlpha c) :=
  unitValue_definedAlpha (h.imp_left unitValue_iff.mp)

/-- **The number that is written for an alpha** is from zero to one, and once it is read it is
written again. -/
theorem exists_alphaNumber (o : Options) (h : UnitValue (definedAlpha c)) :
    ∃ n : PlainNumber, n.negative = false ∧ n.value ≤ 1 ∧
      number o (definedAlpha c) = .ok n.text ∧
      ∀ y, IsNearest n.value y → number o y = .ok n.text := by
  have hsmall : |exact (definedAlpha c)| < 10 ^ 21 := by
    rw [abs_of_nonneg h.nonneg]
    exact h.le_one.trans_lt (by norm_num)
  obtain ⟨n, hcanonical, hround, htext, hagain⟩ := exists_plainNumber h.isFinite hsmall o.precision
  obtain ⟨hnonneg, hone⟩ := hround.mem_unit h.nonneg h.le_one
  refine ⟨n, ?_, hone, mapError_eq_ok.mpr htext, fun y hy => mapError_eq_ok.mpr (hagain y hy)⟩
  rw [Bool.eq_false_iff]
  intro hsign
  -- a negative number is not zero, and so it would be below zero
  have hvalue : n.value ≤ 0 := by
    rw [PlainNumber.value, hsign, signed, if_pos rfl, neg_nonpos]
    positivity
  exact hcanonical.sign hsign (le_antisymm hvalue hnonneg)

/-- What was written tells whether the alpha was. -/
theorem hasExplicitAlpha_written {out : Text} (h : c.written o = .ok out) :
    hasExplicitAlpha out = writesAlpha o (definedAlpha c) := by
  obtain ⟨out', hwritten, -, hexplicit, hholds⟩ := exists_written c o
  rw [h] at hwritten
  cases hwritten
  exact Bool.eq_iff_iff.mpr (hexplicit.trans hholds)

/-- An alpha that is spelled out is written. -/
theorem writesAlpha_explicit (hopacity : o.useOpacity = true) (alpha : Float) :
    writesAlpha (o.withExplicitAlpha true) alpha = true := by
  have hkept : (o.withExplicitAlpha true).useOpacity = true := hopacity
  rw [writesAlpha, hkept]
  exact Bool.or_true _

/-- An alpha of one that is not spelled out is not written. -/
theorem writesAlpha_opaque (h : c.alpha = 1.0) :
    writesAlpha (o.withExplicitAlpha false) (definedAlpha c) = false := by
  rw [definedAlpha_eq_one (Or.inl h), writesAlpha_one]
  exact Bool.and_false _

end Rendering

/-! ## Conversion once more -/

namespace ColorScience

variable {s : ColorScience} {o : Options} {c : Color} {token out : Text} {explicit : Bool}

/-- A text that is kept is read as it stands. -/
theorem read?_library (hkept : out.trim.lowercase = out) (hparse : s.parse? out = some c) :
    s.library.read? out = some c := by
  show s.parse? out.trim.lowercase = some c
  rw [hkept, hparse]

/-- A token is converted by way of a colour that is written. -/
theorem ReadsBytes.exists_color (hs : s.ReadsBytes) (h : s.library.convertToken o token = .ok out) :
    ∃ c : Color, InRange c.alpha ∧
      c.written (o.withExplicitAlpha (hasExplicitAlpha token)) = .ok out := by
  rw [ColorLibrary.convertToken] at h
  split at h
  · cases h
  · rename_i color hread
    have hrange := hs.read hread
    obtain ⟨converted, hspace, hwritten⟩ := ColorLibrary.render_eq_ok_iff.mp h
    refine ⟨converted, ?_, hwritten⟩
    -- the colour was in the space already, or the library converted it
    rw [library] at hspace
    dsimp only at hspace
    split at hspace
    · cases hspace
      exact hrange
    · exact hs.converted hspace hrange

/-- A text that is read as it stands converts to itself if the colour that it writes is written that
way. -/
theorem convertToken_of_parse? (hkept : out.trim.lowercase = out) (hparse : s.parse? out = some c)
    (hspace : c.space = o.target.space)
    (hwritten : c.written (o.withExplicitAlpha (hasExplicitAlpha out)) = .ok out) :
    s.library.convertToken o out = .ok out := by
  have hread := read?_library hkept hparse
  have hstays : s.library.inSpace? c o.target.space = some c := if_pos hspace
  rw [ColorLibrary.convertToken, hread]
  exact ColorLibrary.render_eq_ok_iff.mpr ⟨c, hstays, hwritten⟩

section Bytes

variable {r g b a : ℕ}

/-- Three bytes in function notation convert to themselves: no alpha is spelled out, and it is one. -/
theorem ReadsBytes.convertToken_rgbText (hs : s.ReadsBytes) (ho : o.target = .rgb) (hr : r ≤ 255)
    (hg : g ≤ 255) (hb : b ≤ 255) (hexplicit : hasExplicitAlpha (rgbText r g b []) = false) :
    s.library.convertToken o (rgbText r g b []) = .ok (rgbText r g b []) := by
  have hspace : o.target.space = .srgb := by rw [ho]; rfl
  obtain ⟨c, hparse, hshows, hopaque⟩ := hs.rgb hr hg hb
  refine convertToken_of_parse? (kept_rgbText r g b (List.forall_mem_nil _)) hparse
    (hshows.space.trans hspace.symm) ?_
  obtain ⟨t, ht, -⟩ := Rendering.exists_number o (Rendering.definedAlpha c)
  rw [hexplicit, Rendering.written_rgb (o := o.withExplicitAlpha false) ho
    (Rendering.bytes_of_showsBytes hshows hr hg hb) ht, Rendering.writesAlpha_opaque hopaque,
    if_neg Bool.false_ne_true]

/-- So do three bytes with an alpha that is spelled out, if its number stands for itself. -/
theorem ReadsBytes.convertToken_rgbText_alpha (hs : s.ReadsBytes) (ho : o.target = .rgb)
    (hopacity : o.useOpacity = true) (hr : r ≤ 255) (hg : g ≤ 255) (hb : b ≤ 255) {n : PlainNumber}
    (hsign : n.negative = false) (hone : n.value ≤ 1)
    (hagain : ∀ y, IsNearest n.value y → Rendering.number o y = .ok n.text)
    (hexplicit : hasExplicitAlpha (rgbText r g b (" / ".toList ++ n.text)) = true) :
    s.library.convertToken o (rgbText r g b (" / ".toList ++ n.text)) =
      .ok (rgbText r g b (" / ".toList ++ n.text)) := by
  have hspace : o.target.space = .srgb := by rw [ho]; rfl
  obtain ⟨c, hparse, hshows, hnearest⟩ := hs.rgbAlpha hr hg hb hsign hone
  refine convertToken_of_parse? (kept_rgbText r g b n.denotes.isDecimal.lowercaseChar_alpha)
    hparse (hshows.space.trans hspace.symm) ?_
  have hnumber := hagain _ hnearest
  rw [← Rendering.definedAlpha_of_isFinite hnearest.isFinite] at hnumber
  rw [hexplicit, Rendering.written_rgb (o := o.withExplicitAlpha true) ho
    (Rendering.bytes_of_showsBytes hshows hr hg hb) hnumber,
    Rendering.writesAlpha_explicit hopacity, if_pos rfl]

/-- A hex literal of three bytes converts to itself. -/
theorem ReadsBytes.convertToken_hexText (hs : s.ReadsBytes) (ho : o.target = .hex) (hr : r ≤ 255)
    (hg : g ≤ 255) (hb : b ≤ 255) (hexplicit : hasExplicitAlpha (hexText [r, g, b]) = false) :
    s.library.convertToken o (hexText [r, g, b]) = .ok (hexText [r, g, b]) := by
  have hspace : o.target.space = .srgb := by rw [ho]; rfl
  obtain ⟨c, hparse, hshows, hopaque⟩ := hs.hex hr hg hb
  refine convertToken_of_parse? (kept_hexText (by simp; omega)) hparse
    (hshows.space.trans hspace.symm) ?_
  have hunit : UnitValue (Rendering.definedAlpha c) := by
    rw [definedAlpha_eq_one (Or.inl hopaque)]
    exact unitValue_one
  obtain ⟨a, -, hround⟩ := hunit.exists_roundHalfUp
  rw [hexplicit, Rendering.written_hex (o := o.withExplicitAlpha false) ho
    (Rendering.bytes_of_showsBytes hshows hr hg hb) hunit hround,
    Rendering.writesAlpha_opaque hopaque, if_neg Bool.false_ne_true, List.append_nil]

/-- So does one with a fourth byte. -/
theorem ReadsBytes.convertToken_hexText_alpha (hs : s.ReadsBytes) (ho : o.target = .hex)
    (hopacity : o.useOpacity = true) (hr : r ≤ 255) (hg : g ≤ 255) (hb : b ≤ 255) (ha : a ≤ 255)
    (hexplicit : hasExplicitAlpha (hexText [r, g, b, a]) = true) :
    s.library.convertToken o (hexText [r, g, b, a]) = .ok (hexText [r, g, b, a]) := by
  have hspace : o.target.space = .srgb := by rw [ho]; rfl
  have hkept : (hexText [r, g, b, a]).trim.lowercase = hexText [r, g, b, a] :=
    kept_hexText (by simp; omega)
  obtain ⟨c, hparse, hshows, hnear⟩ := hs.hexAlpha hr hg hb ha
  refine convertToken_of_parse? hkept hparse (hshows.space.trans hspace.symm) ?_
  -- the alpha is in range as every alpha is, and near its byte
  have hunit := Rendering.unitValue_of_inRange (hs.read (read?_library hkept hparse))
  have hdefined := Rendering.definedAlpha_of_isFinite hnear.isFinite
  have hround := hunit.roundHalfUp_of_near ha (hdefined ▸ hnear.close)
  rw [hexplicit, Rendering.written_hex (o := o.withExplicitAlpha true) ho
    (Rendering.bytes_of_showsBytes hshows hr hg hb) hunit hround,
    Rendering.writesAlpha_explicit hopacity, if_pos rfl]
  rfl

end Bytes

/-- **What is written in function notation is written again.** -/
theorem ReadsBytes.rewrites_rgb (hs : s.ReadsBytes) (ho : o.target = .rgb)
    (hopacity : o.useOpacity = true) (hrange : InRange c.alpha)
    (hwritten : c.written (o.withExplicitAlpha explicit) = .ok out) :
    s.library.convertToken o out = .ok out := by
  obtain ⟨r, g, b, hr, hg, hb, hbytes⟩ := Rendering.exists_bytes_le c
  obtain ⟨n, hsign, hone, htext, hagain⟩ :=
    Rendering.exists_alphaNumber o (Rendering.unitValue_of_inRange hrange)
  have hexplicit := Rendering.hasExplicitAlpha_written hwritten
  rw [Rendering.written_rgb (o := o.withExplicitAlpha explicit) ho hbytes htext] at hwritten
  obtain rfl := Except.ok.inj hwritten
  -- what was written of the alpha is all that the two cases differ in
  generalize Rendering.writesAlpha (o.withExplicitAlpha explicit) (Rendering.definedAlpha c) =
    writes at hexplicit ⊢
  cases writes with
  | true =>
    rw [if_pos rfl] at hexplicit ⊢
    exact hs.convertToken_rgbText_alpha ho hopacity hr hg hb hsign hone hagain hexplicit
  | false =>
    rw [if_neg Bool.false_ne_true] at hexplicit ⊢
    exact hs.convertToken_rgbText ho hr hg hb hexplicit

/-- **What is written as a hex literal is written again.** -/
theorem ReadsBytes.rewrites_hex (hs : s.ReadsBytes) (ho : o.target = .hex)
    (hopacity : o.useOpacity = true) (hrange : InRange c.alpha)
    (hwritten : c.written (o.withExplicitAlpha explicit) = .ok out) :
    s.library.convertToken o out = .ok out := by
  obtain ⟨r, g, b, hr, hg, hb, hbytes⟩ := Rendering.exists_bytes_le c
  have hunit := Rendering.unitValue_of_inRange hrange
  obtain ⟨a, ha, hround⟩ := hunit.exists_roundHalfUp
  have hexplicit := Rendering.hasExplicitAlpha_written hwritten
  rw [Rendering.written_hex (o := o.withExplicitAlpha explicit) ho hbytes hunit hround] at hwritten
  obtain rfl := Except.ok.inj hwritten
  generalize Rendering.writesAlpha (o.withExplicitAlpha explicit) (Rendering.definedAlpha c) =
    writes at hexplicit ⊢
  cases writes with
  | true =>
    rw [if_pos rfl] at hexplicit ⊢
    exact hs.convertToken_hexText_alpha ho hopacity hr hg hb ha hexplicit
  | false =>
    rw [if_neg Bool.false_ne_true, List.append_nil] at hexplicit ⊢
    exact hs.convertToken_hexText ho hr hg hb hexplicit

end ColorScience

/-- **A token that was converted to bytes converts to itself**, if an alpha that was spelled out is
kept: with every library that reads bytes, and so with the readers of this development. -/
theorem convertToken_fixpoint {o : Options} (htarget : o.target = .rgb ∨ o.target = .hex)
    (hopacity : o.useOpacity = true) :
    (∀ s : ColorScience, s.ReadsBytes → ∀ token out, s.library.convertToken o token = .ok out →
      s.library.convertToken o out = .ok out) ∧
    ∀ token out, convertToken o token = .ok out → convertToken o out = .ok out := by
  have hlibrary : ∀ s : ColorScience, s.ReadsBytes → ∀ token out,
      s.library.convertToken o token = .ok out → s.library.convertToken o out = .ok out := by
    intro s hs token out hout
    obtain ⟨c, hrange, hwritten⟩ := hs.exists_color hout
    rcases htarget with hrgb | hhex
    · exact hs.rewrites_rgb hrgb hopacity hrange hwritten
    · exact hs.rewrites_hex hhex hopacity hrange hwritten
  refine ⟨hlibrary, fun token out hout => ?_⟩
  have hown := hlibrary .own ColorScience.readsBytes_own token out
  rw [ColorScience.library_own, ColorLibrary.convertToken_own] at hown
  exact hown hout

/-- A green whose alpha is no number of two places. -/
theorem convertToken_fixpoint_green :
    (Options.target ⟨.rgb, 2, true, false⟩ = .rgb ∨ Options.target ⟨.rgb, 2, true, false⟩ = .hex) ∧
      Options.useOpacity ⟨.rgb, 2, true, false⟩ = true ∧ ColorScience.own.ReadsBytes ∧
      ColorScience.own.library.convertToken ⟨.rgb, 2, true, false⟩ "#0F08".toList =
        .ok "rgb(0 255 0 / 0.53)".toList ∧
      ColorScience.own.library.convertToken ⟨.rgb, 2, true, false⟩ "rgb(0 255 0 / 0.53)".toList =
        .ok "rgb(0 255 0 / 0.53)".toList ∧
      convertToken ⟨.rgb, 2, true, false⟩ "#0F08".toList = .ok "rgb(0 255 0 / 0.53)".toList ∧
      convertToken ⟨.rgb, 2, true, false⟩ "rgb(0 255 0 / 0.53)".toList =
        .ok "rgb(0 255 0 / 0.53)".toList := by
  have hout : convertToken ⟨.rgb, 2, true, false⟩ "#0F08".toList =
      .ok "rgb(0 255 0 / 0.53)".toList := by
    decide +kernel
  have hown : ColorScience.own.library.convertToken ⟨.rgb, 2, true, false⟩ "#0F08".toList =
      .ok "rgb(0 255 0 / 0.53)".toList := by
    rw [ColorScience.library_own, ColorLibrary.convertToken_own]
    exact hout
  obtain ⟨hlibrary, hreaders⟩ :=
    convertToken_fixpoint (o := ⟨.rgb, 2, true, false⟩) (Or.inl rfl) rfl
  exact ⟨Or.inl rfl, rfl, ColorScience.readsBytes_own, hown,
    hlibrary .own ColorScience.readsBytes_own _ _ hown, hout, hreaders _ _ hout⟩

end CssColor
