import CssColor.Proofs.Ending

/-!
# Layers of options

The options of a conversion are settled in layers: what a command line gives goes
before the settings, and the settings before what is usual. Settings alone give
options too, so there are two ways to the same options.

- `Settings.overriddenBy`: settings in which what is given has replaced a field.
- `Settings.toOptions_eq`: **settings always give options**, whatever precision
  they hold.
- `Arguments.request_eq`: arguments ask for what the overridden settings ask for.
- `Escapes.ne_options`: no run fails because its options are refused.
- `request_check_eq_toOptions`: **both ways give the same valid options**.
-/

namespace CssColor

/-- The settings in which a precision and a choice on opacity have replaced a field each, if they are
given. -/
def Settings.overriddenBy (s : Settings) (precision : Option Int) (useOpacity : Option Bool) :
    Settings :=
  { s with
    precision := precision.getD s.precision
    useOpacity := useOpacity.getD s.useOpacity }

/-! ## Both ways -/

/-- **Settings always give options**: the precision is limited to the range that is checked. -/
theorem Settings.toOptions_eq (s : Settings) (chosen : Option Target) :
    ∃ places : Fin 7, (places.val : Int) = max 0 (min 6 s.precision) ∧
      s.toOptions chosen = .ok ⟨chosen.getD s.target, places, s.useOpacity, false⟩ := by
  obtain ⟨hlow, hhigh⟩ := limitPrecision_range s.precision
  obtain ⟨places, hplaces, hcheck⟩ :=
    OptionsRequest.check_of_range (r := s.request chosen) hlow hhigh
  refine ⟨places, ?_, hcheck⟩
  rw [hplaces]
  show clamp s.precision leastPrecision mostPrecision = _
  simp only [clamp, larger_eq_max, smaller_eq_min, leastPrecision, mostPrecision]
  omega

/-- Arguments ask for what the settings ask for in which they have replaced what they give. A
precision without a value is no number that could replace one. -/
theorem Arguments.request_eq {a : Arguments} (hgiven : a.precision ≠ .blank) (s : Settings)
    (chosen : Option Target) :
    a.request s chosen =
      .ok ((s.overriddenBy a.precision.value? a.useOpacity).request chosen) := by
  unfold Arguments.request
  cases hprecision : a.precision with
  | absent => rfl
  | blank => exact absurd hprecision hgiven
  | value n => rfl

/-! ## Whole runs -/

variable {argv : List Text} {s : Session} {f : Fault}

/-- What is wrong with a settings file is no matter of options. -/
theorem Settings.FileFaults.ne_options {depths : Depths} {name : Text} {d : Disk}
    (h : FileFaults depths name d f) (e : OptionsError) : f ≠ .options e := by
  rintro rfl
  cases h with
  | noText h => cases h
  | entries _ _ _ h =>
    cases h with
    | precision _ _ h => cases h

/-- **No run fails because its options are refused.** -/
theorem Escapes.ne_options (h : Escapes argv s f) (e : OptionsError) : f ≠ .options e := by
  rintro rfl
  cases h with
  | settings _ h =>
    cases h with
    | file _ _ h => exact h.ne_options e rfl
  | file _ _ h =>
    cases h with
    | noText _ h => cases h

theorem ending_ne_options (argv : List Text) (s : Session) (e : OptionsError) :
    (run argv s).ending ≠ .fault (.options e) := by
  intro hend
  rw [run_eq_arrive] at hend
  cases harrive : arrive argv s with
  | error out =>
    rw [harrive] at hend
    rcases arrive_ending harrive with hexit | ⟨f, hf, hescapes⟩
    · exact hexit.ne_fault _ hend
    · obtain rfl : f = .options e := Ending.fault.inj (hf.symm.trans hend)
      exact hescapes.ne_options e rfl
  | ok b =>
    rw [harrive] at hend
    obtain ⟨name, s', hreach, hbreaks⟩ := convertFiles_fault_iff.mp hend
    exact (Escapes.file harrive hreach hbreaks).ne_options e rfl

/-- **Arguments and settings together give the options of the overridden settings**, with the given
precision limited to its range; and no run fails because its options are refused. -/
theorem request_check_eq_toOptions {a : Arguments} (hgiven : a.precision ≠ .blank) (s : Settings)
    (chosen : Option Target) :
    (a.request s chosen).map OptionsRequest.check =
        .ok ((s.overriddenBy a.precision.value? a.useOpacity).toOptions chosen) ∧
      (∃ places : Fin 7,
        (places.val : Int) = max 0 (min 6 (a.precision.value?.getD s.precision)) ∧
        (s.overriddenBy a.precision.value? a.useOpacity).toOptions chosen =
          .ok ⟨chosen.getD s.target, places, a.useOpacity.getD s.useOpacity, false⟩) ∧
      ∀ argv session e, (run argv session).ending ≠ .fault (.options e) := by
  refine ⟨?_, (s.overriddenBy a.precision.value? a.useOpacity).toOptions_eq chosen,
    ending_ne_options⟩
  rw [Arguments.request_eq hgiven]
  rfl

/-- No decimal places and no alpha of one are given, and count as given. -/
theorem request_check_eq_toOptions_zeroPlaces :
    ∃ a, Arguments.parse ["-p".toList, "0".toList, "--no-opacity".toList] = .ok a ∧
      a.precision ≠ .blank ∧
      (a.request { precision := 5, target := .hsl } none).map OptionsRequest.check =
        .ok (.ok ⟨.hsl, 0, false, false⟩) := by
  have hgiven : ({ precision := .value 0, useOpacity := some false } : Arguments).precision ≠
      .blank := by decide
  obtain ⟨heq, ⟨places, hplaces, hoptions⟩, -⟩ :=
    request_check_eq_toOptions hgiven { precision := 5, target := .hsl } none
  obtain rfl : places = 0 := Fin.ext (Int.ofNat.inj hplaces)
  refine ⟨{ precision := .value 0, useOpacity := some false }, rfl, hgiven, ?_⟩
  rw [heq, hoptions]
  rfl

end CssColor
