import CssColor.Proofs.Accounting
import CssColor.Proofs.ByteNotations
import CssColor.Proofs.Idempotence

/-!
# Every colour can be written

Writing a colour floors scaled components, rounds numbers to decimal places and
chooses a notation. Each step can fail for some double, and none of them does for
those that occur: what is floored has been limited, and a rounding is as wide as
the number that it is given.

- `ColorLibrary.render_eq_error_iff`: **a colour is not rendered only where its space
  cannot be changed.**
- `ColorLibrary.convertToken_eq_none_iff`: whether a token is converted depends on
  the token and the space of the target.
- `counts_eq_of_fails_iff`: conversions that fail for the same tokens count alike.
- `render_total`: **no option but the target has a say in what fails.**
-/

namespace CssColor

open Binary64

/-! ## Rendering -/

/-- What is floored for a component is finite. -/
theorem isFinite_scaled_add_half (x : Float) : (ofFloat (clampUnit x * 255.0 + 0.5)).IsFinite :=
  (unitValue_clampUnit x).byteSteps.sum.isFinite

/-- What is floored for a byte is finite as well. -/
theorem isFinite_byte_add_half {n : ℕ} (hn : n ≤ 255) : (ofFloat (n.toFloat + 0.5)).IsFinite := by
  have hbyte := hexByte_toFloat hn
  obtain ⟨k, hround, -⟩ := map_eq_ok.mp hbyte
  rw [roundHalfUp, floorFloat] at hround
  cases hvalue : ofFloat (n.toFloat + 0.5) with
  | finite negative m e => exact ⟨negative, m, e, rfl⟩
  | nan =>
    rw [hvalue] at hround
    cases hround
  | infinite negative =>
    rw [hvalue] at hround
    cases hround

namespace ColorLibrary

variable {l : ColorLibrary}

/-- **A colour is not rendered only where its space cannot be changed.** -/
theorem render_eq_error_iff {c : Color} {o : Options} {e : TokenError} :
    l.render c o = .error e ↔
      l.inSpace? c o.target.space = none ∧ e = .unrenderable o.target.space := by
  cases hspace : l.inSpace? c o.target.space with
  | none =>
    rw [render, hspace]
    exact ⟨fun h => ⟨rfl, (Except.error.inj h).symm⟩, fun h => congrArg _ h.2.symm⟩
  | some converted =>
    obtain ⟨t, hwritten, -⟩ := exists_written converted o
    rw [render_eq_ok_iff.mpr ⟨converted, hspace, hwritten⟩]
    constructor
    · intro h
      cases h
    · rintro ⟨h, -⟩
      cases h

/-! ## Conversion -/

/-- **Whether a token is converted** depends on the token and the space of the target. -/
theorem convertToken_eq_none_iff {o : Options} {token : Text} :
    (l.convertToken o token).toOption = none ↔
      ∀ color, l.read? token = some color → l.inSpace? color o.target.space = none := by
  rw [convertToken]
  cases hread : l.read? token with
  | none =>
    refine iff_of_true rfl fun color h => ?_
    cases h
  | some color =>
    dsimp only
    have hcolor : (∀ other, some color = some other → l.inSpace? other o.target.space = none) ↔
        l.inSpace? color o.target.space = none :=
      ⟨fun h => h color rfl, fun h other heq => Option.some.inj heq ▸ h⟩
    rw [hcolor]
    cases hrender : l.render color (o.withExplicitAlpha (hasExplicitAlpha token)) with
    | error e => exact iff_of_true rfl (render_eq_error_iff.mp hrender).1
    | ok out =>
      obtain ⟨converted, hspace, -⟩ := render_eq_ok_iff.mp hrender
      refine iff_of_false (fun h => by cases h) fun hnone => ?_
      rw [show l.inSpace? color o.target.space = some converted from hspace] at hnone
      cases hnone

end ColorLibrary

/-- Conversions that fail for the same tokens count alike. -/
theorem counts_eq_of_fails_iff {f g : TokenConverter} (t : Text)
    (h : ∀ token, (f token).toOption = none ↔ (g token).toOption = none) :
    (convertWith f t).editsApplied = (convertWith g t).editsApplied ∧
      (convertWith f t).errorColors = (convertWith g t).errorColors := by
  have herrors : (convertWith f t).errorColors = (convertWith g t).errorColors := by
    rw [errorColors_convertWith, errorColors_convertWith]
    exact List.filter_congr fun token _ => decide_eq_decide.mpr (h token)
  have htotal := editsApplied_add_errorColors f t
  have htotal' := editsApplied_add_errorColors g t
  rw [herrors] at htotal
  exact ⟨by omega, herrors⟩

/-- **Rendering fails only where the space cannot be changed, and no option but the target has a say
in what fails.** What is floored is finite, and no rounding needs more digits than it has. -/
theorem render_total :
    (∀ x : Float, (ofFloat (clampUnit x * 255.0 + 0.5)).IsFinite) ∧
      (∀ n : ℕ, n ≤ 255 → (ofFloat (n.toFloat + 0.5)).IsFinite) ∧
      (∀ significand exponent places, digitCount (fixedUnits significand exponent places) ≤
        fixedWidth significand exponent places) ∧
      (∀ (c : Color) (o : Options), ∃ t, c.written o = .ok t) ∧
      (∀ (c : Color) (o : Options) (e : TokenError), c.render o = .error e ↔
        c.inSpace? o.target.space = none ∧ e = .unrenderable o.target.space) ∧
      (∀ o o' : Options, o.target = o'.target → ∀ t : Text,
        ((convert o t).editsApplied = (convert o' t).editsApplied ∧
          (convert o t).errorColors = (convert o' t).errorColors) ∧
        ∀ l : ColorLibrary,
          (convertWith (l.convertToken o) t).editsApplied =
              (convertWith (l.convertToken o') t).editsApplied ∧
            (convertWith (l.convertToken o) t).errorColors =
              (convertWith (l.convertToken o') t).errorColors) := by
  have hlibrary : ∀ (l : ColorLibrary) {o o' : Options}, o.target = o'.target → ∀ token,
      (l.convertToken o token).toOption = none ↔ (l.convertToken o' token).toOption = none := by
    intro l o o' htarget token
    rw [ColorLibrary.convertToken_eq_none_iff, ColorLibrary.convertToken_eq_none_iff, htarget]
  refine ⟨isFinite_scaled_add_half, fun n => isFinite_byte_add_half, digitCount_fixedUnits_le,
    fun c o => ?_, fun c o e => ColorLibrary.render_eq_error_iff (l := .own),
    fun o o' htarget t => ⟨?_, fun l => ?_⟩⟩
  · obtain ⟨t, hwritten, -⟩ := exists_written c o
    exact ⟨t, hwritten⟩
  · exact counts_eq_of_fails_iff t (hlibrary .own htarget)
  · exact counts_eq_of_fails_iff t (hlibrary l htarget)

/-- Options that differ in all but the target count the same. -/
theorem render_total_rgb :
    Options.target ⟨.rgb, 2, true, false⟩ = Options.target ⟨.rgb, 6, false, true⟩ ∧
      (convert ⟨.rgb, 2, true, false⟩ "fill:#0008;color:hsl(none);".toList).editsApplied =
          (convert ⟨.rgb, 6, false, true⟩ "fill:#0008;color:hsl(none);".toList).editsApplied ∧
        (convert ⟨.rgb, 2, true, false⟩ "fill:#0008;color:hsl(none);".toList).errorColors =
          (convert ⟨.rgb, 6, false, true⟩ "fill:#0008;color:hsl(none);".toList).errorColors := by
  obtain ⟨-, -, -, -, -, hcounts⟩ := render_total
  exact ⟨rfl, (hcounts ⟨.rgb, 2, true, false⟩ ⟨.rgb, 6, false, true⟩ rfl
    "fill:#0008;color:hsl(none);".toList).1⟩

end CssColor
