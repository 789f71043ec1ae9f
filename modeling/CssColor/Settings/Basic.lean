import CssColor.Options

/-!
# Settings

- `Settings`: what a person prefers for all conversions.
- `limitPrecision`: the nearest count of decimal places that is in range.
- `Settings.toOptions`: the options that settings give, with the target that is
  chosen for the occasion if there is one.
-/

namespace CssColor

/-- Preferences for conversions: how colours are written, and whether the target is asked for each
time. -/
structure Settings where
  precision : Int := 2
  useOpacity : Bool := true
  target : Target := .oklch
  promptForFormat : Bool := false
  deriving DecidableEq, Repr

/-- The count of decimal places in range that is nearest to a number. -/
def limitPrecision (n : Int) : Int :=
  clamp n leastPrecision mostPrecision

/-- A limited count is in range. -/
theorem limitPrecision_range (n : Int) :
    leastPrecision ≤ limitPrecision n ∧ limitPrecision n ≤ mostPrecision :=
  clamp_range n (by decide)

/-- A count in range is not changed. -/
theorem limitPrecision_of_range {n : Int} (low : leastPrecision ≤ n) (high : n ≤ mostPrecision) :
    limitPrecision n = n :=
  clamp_of_range low high

namespace Settings

/-- The options that settings ask for; a chosen target goes before theirs. -/
def request (s : Settings) (chosen : Option Target) : OptionsRequest where
  target := chosen.getD s.target
  precision := limitPrecision s.precision
  useOpacity := s.useOpacity

/-- The options that settings give. -/
def toOptions (s : Settings) (chosen : Option Target) : Except OptionsError Options :=
  (s.request chosen).check

/-- Settings as messages show them. -/
def literal (s : Settings) : Text :=
  let truth (b : Bool) : Text := (Value.bool b).literal
  "Settings(precision=".toList ++ intText s.precision
    ++ ", use_opacity=".toList ++ truth s.useOpacity
    ++ ", target_format=<TargetFormat.".toList ++ s.target.name.map Char.toUpper
    ++ ": ".toList ++ s.target.name.quote
    ++ ">, prompt_for_format=".toList ++ truth s.promptForFormat ++ [')']

end Settings

end CssColor
