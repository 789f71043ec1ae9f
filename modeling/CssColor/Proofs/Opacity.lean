import CssColor.Proofs.Accounting
import CssColor.Proofs.AlphaReading

/-!
# Opacity

A token whose alpha is below one has it written, whatever the options say. One
that spells out an alpha of one keeps it if the options ask for that; nothing else
depends on them.

- `exists_frame`: **the options for alpha settle whether it is written, and nothing of
  what stands around it.**
- `ColorLibrary.ReadsAlphas`: what is expected of a colour library, and
  `ColorLibrary.readsAlphas_own`.
- `KeepsAlpha`, `convertToken_keepsAlpha`: what becomes of a token where an alpha of
  one is dropped, and where it is kept.
- `convertToken_translucent`: an alpha below one is written under all options.
- `TreatsAlpha`, `convert_opacity`: **whole texts under options that differ in their
  treatment of alpha.**
-/

namespace CssColor

/-! ## What is written around an alpha -/

/-- Two options that differ in their treatment of alpha, if in anything. -/
structure Options.SameFormat (o o' : Options) : Prop where
  target : o'.target = o.target
  precision : o'.precision = o.precision

/-- What ends a notation: the digits of a hex literal do, all others have a bracket. -/
def Target.closing : Target → Text
  | .hex => []
  | _ => [')']

namespace Rendering

variable {o : Options} {c : Color}

/-- An alpha as a target writes it: a number behind a slash, or two hexadecimal digits. -/
def alphaText (o : Options) (alpha : Float) : Except NumberError Text :=
  match o.target with
  | .hex => (hexByte (clampUnit alpha * 255.0)).mapError .whole
  | _ => (number o alpha).map fun t => " / ".toList ++ t

/-- A notation with the alpha of a colour in it, if the options have it written. -/
def around (o : Options) (c : Color) (front alpha : Text) : Text :=
  front ++ (if writesAlpha o (definedAlpha c) then alpha else []) ++ o.target.closing

variable {o' : Options}

theorem number_congr (h : o.SameFormat o') (x : Float) : number o' x = number o x := by
  rw [number, number, h.precision]

theorem percentage_congr (h : o.SameFormat o') (x : Float) : percentage o' x = percentage o x := by
  rw [percentage, percentage, number_congr h]

/-- The components of a call are written with no regard to the options for alpha. -/
theorem exists_functionText (ho : o.target ≠ .hex) (c : Color) :
    ∃ x y z, ∀ o', o.SameFormat o' →
      c.written o' = (alphaPart o' c).map (functionText o.target.name x y z) := by
  obtain ⟨x, hx, -⟩ := exists_number o (finiteChannels c).x
  obtain ⟨y, hy, -⟩ := exists_number o (finiteChannels c).y
  obtain ⟨z, hz, -⟩ := exists_number o (finiteChannels c).z
  cases htarget : o.target with
  | hex => exact absurd htarget ho
  | oklch =>
    obtain ⟨x', hx', -⟩ := exists_percentage o ((finiteChannels c).x * 100.0)
    refine ⟨x' ++ ['%'], y, z, fun o' h => ?_⟩
    rw [Color.written, h.target, htarget]
    exact oklch_eq ((percentage_congr h _).trans hx') ((number_congr h _).trans hy)
      ((number_congr h _).trans hz)
  | rgb =>
    obtain ⟨r, g, b, hbytes⟩ := exists_bytes c
    refine ⟨intText r, intText g, intText b, fun o' h => ?_⟩
    rw [Color.written, h.target, htarget]
    exact rgb_eq hbytes
  | hsl =>
    obtain ⟨y', hy', -⟩ := exists_percentage o (clampUnit (finiteChannels c).y * 100.0)
    obtain ⟨z', hz', -⟩ := exists_percentage o (clampUnit (finiteChannels c).z * 100.0)
    refine ⟨x, y' ++ ['%'], z' ++ ['%'], fun o' h => ?_⟩
    rw [Color.written, h.target, htarget]
    exact hsl_eq ((number_congr h _).trans hx) ((percentage_congr h _).trans hy')
      ((percentage_congr h _).trans hz')
  | oklab | lch | lab =>
    refine ⟨x, y, z, fun o' h => ?_⟩
    rw [Color.written, h.target, htarget]
    exact raw_eq ((number_congr h _).trans hx) ((number_congr h _).trans hy)
      ((number_congr h _).trans hz)

/-- **What is written around an alpha does not depend on the options for alpha**: they settle only
whether it is written. -/
theorem exists_frame (o : Options) (c : Color) :
    ∃ front alpha, alphaText o (definedAlpha c) = .ok alpha ∧ ∀ o', o.SameFormat o' →
      c.written o' = .ok (around o' c front alpha) := by
  by_cases ho : o.target = .hex
  · obtain ⟨r, g, b, hbytes⟩ := exists_bytes c
    obtain ⟨n, hn⟩ := exists_hexByte (definedAlpha c)
    refine ⟨'#' :: (byteDigits r ++ byteDigits g ++ byteDigits b), byteDigits n, ?_, fun o' h => ?_⟩
    · rw [alphaText, ho]
      exact mapError_eq_ok.mpr hn
    · rw [Color.written, around, h.target, ho, Target.closing, List.append_nil]
      exact hex_eq hbytes hn
  · obtain ⟨x, y, z, hwritten⟩ := exists_functionText ho c
    obtain ⟨a, ha, -⟩ := exists_number o (definedAlpha c)
    refine ⟨o.target.name ++ '(' :: x ++ ' ' :: y ++ ' ' :: z, " / ".toList ++ a, ?_, fun o' h => ?_⟩
    · rw [alphaText]
      split
      · rename_i hhex
        exact absurd hhex ho
      · exact map_eq_ok.mpr ⟨a, ha, rfl⟩
    · have hclosing : o.target.closing = [')'] := by
        rw [Target.closing]
        exact ho
      rw [hwritten o' h, alphaPart_eq ((number_congr h _).trans ha), around, h.target, hclosing]
      rfl

end Rendering

/-! ## Colour libraries -/

namespace ColorLibrary

/-- What is expected of a library: an alpha that is read is below one, one, or undefined, and it is
the same in every space. -/
structure ReadsAlphas (l : ColorLibrary) : Prop where
  read : ∀ {token : Text} {c : Color}, l.read? token = some c → InUnit c.alpha
  converted : ∀ {c converted : Color} {space : Space}, l.inSpace? c space = some converted →
    converted.alpha = c.alpha

/-- **The readers and conversions of this development do that.** -/
theorem readsAlphas_own : own.ReadsAlphas where
  read h := read?_alpha ofAlphas_inUnit h
  converted h := alpha_of_inSpace? h

variable {l : ColorLibrary}

theorem ReadsAlphas.definedAlpha (hl : l.ReadsAlphas) {c converted : Color} {space : Space}
    (h : l.inSpace? c space = some converted) :
    Rendering.definedAlpha converted = Rendering.definedAlpha c := by
  rw [Rendering.definedAlpha, Rendering.definedAlpha, hl.converted h]

/-- A colour is rendered the same around its alpha, or fails for the same reason. -/
theorem ReadsAlphas.exists_render_frame (hl : l.ReadsAlphas) (o : Options) (c : Color) :
    (∃ e, ∀ o', o.SameFormat o' → l.render c o' = .error e) ∨
    ∃ front alpha, Rendering.alphaText o (Rendering.definedAlpha c) = .ok alpha ∧
      ∀ o', o.SameFormat o' → l.render c o' = .ok (Rendering.around o' c front alpha) := by
  cases hspace : l.inSpace? c o.target.space with
  | none =>
    refine Or.inl ⟨.unrenderable o.target.space, fun o' ho => ?_⟩
    rw [render, ho.target, hspace]
  | some converted =>
    have hdefined := hl.definedAlpha hspace
    obtain ⟨front, alpha, htext, hframe⟩ := Rendering.exists_frame o converted
    rw [hdefined] at htext
    refine Or.inr ⟨front, alpha, htext, fun o' ho => ?_⟩
    have hwritten := hframe o' ho
    rw [Rendering.around, hdefined] at hwritten
    rw [← ho.target] at hspace
    exact render_eq_ok_iff.mpr ⟨converted, hspace, hwritten⟩

/-- A rendered colour holds the alpha that is written and no other. -/
theorem ReadsAlphas.holdsAlpha (hl : l.ReadsAlphas) {c : Color} {o : Options} {out : Text}
    (h : l.render c o = .ok out) :
    HoldsAlpha o.target out ↔ Rendering.writesAlpha o (Rendering.definedAlpha c) = true := by
  obtain ⟨converted, hspace, hconverted⟩ := render_eq_ok_iff.mp h
  obtain ⟨out', hwritten, -, -, hholds⟩ := exists_written converted o
  rw [hconverted] at hwritten
  cases hwritten
  rw [hholds, hl.definedAlpha hspace]

end ColorLibrary

/-! ## Tokens -/

/-- The same options, keeping an alpha of one that was spelled out, or dropping it. -/
def Options.withOpacity (o : Options) (useOpacity : Bool) : Options :=
  { o with useOpacity }

/-- An alpha of one as a target writes it. -/
def Target.wholeAlpha : Target → Text
  | .hex => "ff".toList
  | _ => " / 1".toList

/-- A token spells out its alpha, which a colour library reads as one or as undefined. -/
structure SpellsWholeAlpha (l : ColorLibrary) (token : Text) : Prop where
  explicit : hasExplicitAlpha token = true
  whole : ∃ c, l.read? token = some c ∧ (c.alpha = 1.0 ∨ c.alpha.isNaN = true)

/-- What becomes of a token where an alpha of one is dropped, and where it is kept. -/
inductive KeepsAlpha (l : ColorLibrary) (target : Target) (token : Text) :
    Except TokenError Text → Except TokenError Text → Prop where
  /-- The token fails, for the same reason. -/
  | failed (e : TokenError) : KeepsAlpha l target token (.error e) (.error e)
  /-- There is no alpha of one to keep. -/
  | same (out : Text) (h : ¬ SpellsWholeAlpha l token) :
    KeepsAlpha l target token (.ok out) (.ok out)
  /-- There is one, which is written in front of the end. -/
  | kept (front : Text) (h : SpellsWholeAlpha l token) :
    KeepsAlpha l target token (.ok (front ++ target.closing))
      (.ok (front ++ target.wholeAlpha ++ target.closing))

/-- An alpha that is one is written without decimal places. -/
theorem alphaText_one (o : Options) : Rendering.alphaText o 1.0 = .ok o.target.wholeAlpha := by
  have hone : ∀ precision : Fin 7, formatNumber 1.0 precision = .ok ['1'] := by
    decide +kernel
  have hbyte : hexByte (clampUnit 1.0 * 255.0) = .ok "ff".toList := by
    decide +kernel
  rw [Rendering.alphaText]
  cases o.target with
  | hex => exact mapError_eq_ok.mpr hbyte
  | _ => exact map_eq_ok.mpr ⟨_, mapError_eq_ok.mpr (hone o.precision), rfl⟩

/-- An alpha that is not below one counts as one. -/
theorem definedAlpha_eq_one {c : Color} (h : c.alpha = 1.0 ∨ c.alpha.isNaN = true) :
    Rendering.definedAlpha c = 1.0 := by
  rw [Rendering.definedAlpha]
  split
  · rfl
  · rename_i hnan
    exact h.resolve_right hnan

theorem not_lt_one {alpha : Float} (h : alpha = 1.0 ∨ alpha.isNaN = true) : ¬ alpha < 1.0 := by
  rcases h with rfl | hnan
  · decide
  · exact Binary64.not_lt_of_isNaN hnan

theorem definedAlpha_of_lt {c : Color} (h : c.alpha < 1.0) :
    Rendering.definedAlpha c = c.alpha := by
  rw [Rendering.definedAlpha, if_neg]
  exact fun hnan => not_lt_one (Or.inr hnan) h

theorem writesAlpha_one (o : Options) :
    Rendering.writesAlpha o 1.0 = (o.useOpacity && o.explicitAlpha) := by
  have hone : decide ((1.0 : Float) < 1.0) = false := by decide
  rw [Rendering.writesAlpha, hone, Bool.false_or]

theorem writesAlpha_of_lt (o : Options) {alpha : Float} (h : alpha < 1.0) :
    Rendering.writesAlpha o alpha = true := by
  rw [Rendering.writesAlpha, decide_eq_true h, Bool.true_or]

variable {l : ColorLibrary}

theorem SpellsWholeAlpha.alpha {token : Text} {c : Color} (h : SpellsWholeAlpha l token)
    (hread : l.read? token = some c) : c.alpha = 1.0 ∨ c.alpha.isNaN = true := by
  obtain ⟨c', hread', hwhole⟩ := h.whole
  rw [hread] at hread'
  cases hread'
  exact hwhole

/-- **The option for opacity keeps an alpha of one where it was spelled out**, and does nothing
else. -/
theorem convertToken_keepsAlpha (hl : l.ReadsAlphas) (o : Options) (token : Text) :
    KeepsAlpha l o.target token (l.convertToken (o.withOpacity false) token)
      (l.convertToken (o.withOpacity true) token) := by
  unfold ColorLibrary.convertToken
  cases hread : l.read? token with
  | none => exact .failed _
  | some c =>
    have hformat : ∀ useOpacity, o.SameFormat
        ((o.withOpacity useOpacity).withExplicitAlpha (hasExplicitAlpha token)) :=
      fun _ => ⟨rfl, rfl⟩
    dsimp only
    rcases hl.exists_render_frame o c with ⟨e, hfails⟩ | ⟨front, alpha, htext, hframe⟩
    · -- the space of the target does not have the colour
      rw [hfails _ (hformat false), hfails _ (hformat true)]
      exact .failed e
    · rw [hframe _ (hformat false), hframe _ (hformat true), Rendering.around, Rendering.around]
      rcases hl.read hread with hbelow | hwhole
      · -- the alpha is written either way
        rw [definedAlpha_of_lt hbelow, writesAlpha_of_lt _ hbelow, writesAlpha_of_lt _ hbelow]
        exact .same _ fun h => not_lt_one (h.alpha hread) hbelow
      · -- the alpha counts as one, so the options settle whether it is written
        rw [definedAlpha_eq_one hwhole, writesAlpha_one, writesAlpha_one]
        have halpha : alpha = o.target.wholeAlpha := by
          rw [definedAlpha_eq_one hwhole, alphaText_one] at htext
          exact (Except.ok.inj htext).symm
        rw [halpha]
        cases hexplicit : hasExplicitAlpha token with
        | false =>
          refine .same _ fun h => ?_
          rw [h.explicit] at hexplicit
          cases hexplicit
        | true =>
          have hkept : KeepsAlpha l o.target token (.ok (front ++ [] ++ o.target.closing))
              (.ok (front ++ o.target.wholeAlpha ++ o.target.closing)) := by
            rw [List.append_nil]
            exact .kept front ⟨hexplicit, c, hread, hwhole⟩
          exact hkept

/-- **An alpha below one is written under all options.** -/
theorem convertToken_translucent (hl : l.ReadsAlphas) {o : Options} {token : Text} {c : Color}
    {out : Text} (hread : l.read? token = some c) (hbelow : c.alpha < 1.0)
    (hout : l.convertToken o token = .ok out) :
    HoldsAlpha o.target out ∧ ∃ front alpha, Rendering.alphaText o c.alpha = .ok alpha ∧
      out = front ++ alpha ++ o.target.closing := by
  have hformat : o.SameFormat (o.withExplicitAlpha (hasExplicitAlpha token)) := ⟨rfl, rfl⟩
  rw [ColorLibrary.convertToken, hread] at hout
  dsimp only at hout
  constructor
  · refine (hl.holdsAlpha hout).mpr ?_
    rw [definedAlpha_of_lt hbelow, writesAlpha_of_lt _ hbelow]
  · rcases hl.exists_render_frame o c with ⟨e, hfails⟩ | ⟨front, alpha, htext, hframe⟩
    · rw [hfails _ hformat] at hout
      cases hout
    · rw [hframe _ hformat, Rendering.around, definedAlpha_of_lt hbelow, writesAlpha_of_lt _ hbelow]
        at hout
      rw [definedAlpha_of_lt hbelow] at htext
      cases hout
      exact ⟨front, alpha, htext, rfl⟩

/-! ## Texts -/

/-- Attempts at the same declaration, with an alpha of one dropped and with it kept. -/
structure Attempt.KeepsAlpha (l : ColorLibrary) (target : Target) (a a' : Attempt) : Prop where
  declaration : a'.declaration = a.declaration
  outcome : CssColor.KeepsAlpha l target a.declaration.token a.outcome a'.outcome

theorem attempts_keepsAlpha (hl : l.ReadsAlphas) (o : Options) (t : Text) :
    List.Forall₂ (Attempt.KeepsAlpha l o.target)
      (attempts (l.convertToken (o.withOpacity false)) t)
      (attempts (l.convertToken (o.withOpacity true)) t) := by
  rw [attempts, attempts, List.forall₂_map_left_iff, List.forall₂_map_right_iff, List.forall₂_same]
  exact fun d _ => ⟨rfl, convertToken_keepsAlpha hl o d.token⟩

/-- The same tokens fail whether an alpha of one is kept or dropped. -/
theorem toOption_convertToken_opacity (hl : l.ReadsAlphas) (o : Options) (token : Text) :
    (l.convertToken (o.withOpacity true) token).toOption = none ↔
      (l.convertToken (o.withOpacity false) token).toOption = none := by
  have hkeeps := convertToken_keepsAlpha hl o token
  generalize l.convertToken (o.withOpacity true) token = kept at hkeeps
  generalize l.convertToken (o.withOpacity false) token = dropped at hkeeps
  cases hkeeps with
  | failed e => exact Iff.rfl
  | same out h => exact Iff.rfl
  | kept front h => exact iff_of_false nofun nofun

/-- What the options for alpha do to a text, with a colour library. -/
structure TreatsAlpha (l : ColorLibrary) (o : Options) (t : Text) : Prop where
  /-- That a token spelled out its alpha is read off the token, so the option that says so counts
  for nothing. -/
  explicit : ∀ explicitAlpha, l.convert (o.withExplicitAlpha explicitAlpha) t = l.convert o t
  /-- The option for opacity leaves alone how many colours are converted. -/
  editsApplied : (l.convert (o.withOpacity true) t).editsApplied =
    (l.convert (o.withOpacity false) t).editsApplied
  /-- It leaves alone which ones fail. -/
  errorColors : (l.convert (o.withOpacity true) t).errorColors =
    (l.convert (o.withOpacity false) t).errorColors
  /-- Where it is set, an alpha of one stays with the tokens that spelled it out. -/
  kept : List.Forall₂ (Attempt.KeepsAlpha l o.target)
    (attempts (l.convertToken (o.withOpacity false)) t)
    (attempts (l.convertToken (o.withOpacity true)) t)
  /-- An alpha below one is written under all options. -/
  translucent : ∀ a ∈ attempts (l.convertToken o) t, ∀ c out,
    l.read? a.declaration.token = some c → c.alpha < 1.0 → a.outcome = .ok out →
      HoldsAlpha o.target out ∧ ∃ front alpha, Rendering.alphaText o c.alpha = .ok alpha ∧
        out = front ++ alpha ++ o.target.closing

theorem ColorLibrary.ReadsAlphas.treatsAlpha (hl : l.ReadsAlphas) (o : Options) (t : Text) :
    TreatsAlpha l o t := by
  have hcolors : (l.convert (o.withOpacity true) t).errorColors =
      (l.convert (o.withOpacity false) t).errorColors := by
    simp only [ColorLibrary.convert, errorColors_convertWith, toOption_convertToken_opacity hl]
  refine ⟨fun _ => rfl, ?_, hcolors, attempts_keepsAlpha hl o t, ?_⟩
  · -- what does not fail is converted, so the counts agree as the failures do
    have hkept := editsApplied_add_errorColors (l.convertToken (o.withOpacity true)) t
    have hdropped := editsApplied_add_errorColors (l.convertToken (o.withOpacity false)) t
    rw [ColorLibrary.convert, ColorLibrary.convert] at hcolors ⊢
    rw [hcolors] at hkept
    omega
  · intro a ha c out hread hbelow hout
    obtain ⟨d, -, rfl⟩ := List.mem_map.mp ha
    exact convertToken_translucent hl hread hbelow hout

/-- **What the options for alpha do to a text**: with every colour library that reads alphas up to
one and keeps them in all spaces, and so with the one of this development. -/
theorem convert_opacity (o : Options) (t : Text) :
    (∀ l : ColorLibrary, l.ReadsAlphas → TreatsAlpha l o t) ∧ TreatsAlpha .own o t :=
  ⟨fun _ hl => hl.treatsAlpha o t, ColorLibrary.readsAlphas_own.treatsAlpha o t⟩

/-- Options without regard to opacity, under which hex literals are written. -/
def plainHex (precision : Fin 7) : Options where
  target := .hex
  precision := precision
  useOpacity := false

/-- A black that is about half transparent. -/
def shade : Color where
  space := .srgb
  channels := ⟨byteComponent 0, byteComponent 0, byteComponent 0⟩
  alpha := byteComponent 136

/-- A shadow in that black, converted. -/
def shadow : Attempt where
  declaration := ⟨0, "--shadow: ".toList, "#0008".toList⟩
  outcome := .ok "#00000088".toList

/-- The alpha of the shadow is written as a fourth byte. -/
theorem convert_opacity_shadow :
    ColorLibrary.own.ReadsAlphas ∧
    shadow ∈ attempts (convertToken (plainHex 2)) "--shadow: #0008;".toList ∧
    Color.read? shadow.declaration.token = some shade ∧ shade.alpha < 1.0 ∧
    HoldsAlpha .hex "#00000088".toList ∧
      ∃ front alpha, Rendering.alphaText (plainHex 2) shade.alpha = .ok alpha ∧
        "#00000088".toList = front ++ alpha ++ Target.closing .hex := by
  have hmem : shadow ∈ attempts (convertToken (plainHex 2)) "--shadow: #0008;".toList := by
    have hname : Grammar.IsPropertyName "--shadow".toList :=
      Or.inl ⟨"shadow".toList, by decide, List.all_eq_true.mp rfl, rfl⟩
    have hdigits : ∀ c ∈ "0008".toList, isHexDigit c = true := List.all_eq_true.mp (by decide)
    have htoken : Grammar.IsToken "#0008".toList [';'] :=
      .hex ⟨"0008".toList, by decide, hdigits, by decide⟩ rfl
    have htext : "--shadow: #0008;".toList =
        "--shadow".toList ++ ": ".toList ++ "#0008".toList ++ [';'] := by decide
    have hout : convertToken (plainHex 2) "#0008".toList = .ok "#00000088".toList := by decide +kernel
    rw [attempts, htext, find_property hname htoken, List.map_singleton, hout]
    exact List.mem_singleton_self shadow
  have hread : Color.read? shadow.declaration.token = some shade := by
    have htoken : Text.lowercase (Text.trim "#0008".toList) = "#0008".toList := by decide +kernel
    have hvalues : hexValues? "0008".toList = some [0, 0, 0, 8] := by decide +kernel
    rw [shadow, Color.read?, htoken]
    show hexColor? "0008".toList = _
    rw [hexColor?, hvalues]
    rfl
  have hbelow : shade.alpha < 1.0 := by decide +kernel
  have hlibrary := ColorLibrary.readsAlphas_own
  have hheld := ((convert_opacity (plainHex 2) "--shadow: #0008;".toList).1 .own hlibrary).translucent
    shadow hmem shade "#00000088".toList hread hbelow rfl
  exact ⟨hlibrary, hmem, hread, hbelow, hheld⟩

end CssColor
