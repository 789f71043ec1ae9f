import CssColor.Number.Fixed
import CssColor.Target

/-!
# Options of a conversion

- `Options`: the target, the precision, and how opaque colours are written.
- `OptionsRequest.check`: options from what was asked for, refused if the
  precision is out of range.
- `LooseRequest.check`: the same for values of any kind, refused also if the
  target is none or the precision is no number.

A precision that is in range and no whole number is accepted, but no number can
be written with it.
-/

namespace CssColor

/-- The least and the greatest count of decimal places. -/
def leastPrecision : Int := 0

/-- The greatest count of decimal places. -/
def mostPrecision : Int := 6

/-- Options of a conversion: the notation that colours are written in, the decimal places of
components that are not whole, whether an alpha of one is kept where it was spelled out, and whether
the token at hand spelled out its alpha. -/
structure Options where
  target : Target := .oklch
  precision : Fin 7 := 2
  useOpacity : Bool := true
  explicitAlpha : Bool := false
  deriving DecidableEq, Repr

/-- The same options for a token that did or did not spell out its alpha. -/
def Options.withExplicitAlpha (o : Options) (explicitAlpha : Bool) : Options :=
  { o with explicitAlpha }

/-- Why options are refused. -/
inductive OptionsError where
  | notATarget (v : Value)
  | precisionNotANumber (v : Value)
  | precisionOutOfRange (v : Value)

/-- The message of an options error. -/
def OptionsError.message : OptionsError → Text
  | .notATarget v => "target_format must be a TargetFormat, got ".toList ++ v.literal
  | .precisionNotANumber v =>
    "'<=' not supported between instances of 'int' and '".toList ++ v.kind ++ ['\'']
  | .precisionOutOfRange v =>
    "Precision must be ".toList ++ intText leastPrecision ++ '-' :: intText mostPrecision
      ++ ", got ".toList ++ v.literal

/-- A whole number as a precision, if it is in range. -/
def precisionOfInt? (n : Int) : Option (Fin 7) :=
  if h : leastPrecision ≤ n ∧ n ≤ mostPrecision then
    some ⟨n.toNat, by simp only [leastPrecision, mostPrecision] at h; omega⟩
  else none

/-- Options that are asked for, with any whole number as the precision. -/
structure OptionsRequest where
  target : Target := .oklch
  precision : Int := 2
  useOpacity : Bool := true
  explicitAlpha : Bool := false

/-- The options that are asked for, if the precision is in range. -/
def OptionsRequest.check (r : OptionsRequest) : Except OptionsError Options :=
  match precisionOfInt? r.precision with
  | some precision => .ok ⟨r.target, precision, r.useOpacity, r.explicitAlpha⟩
  | none => .error (.precisionOutOfRange (.int r.precision))

/-! ## Values of any kind -/

/-- A target that is asked for: one that was looked up, or a value that was not. -/
inductive TargetRequest where
  | known (target : Target)
  | value (v : Value)

/-- Options that are asked for by values of any kind. -/
structure LooseRequest where
  target : TargetRequest := .known .oklch
  precision : Value := .int 2
  useOpacity : Bool := true
  explicitAlpha : Bool := false

/-- Options that are accepted. With a precision that is no whole number they hold the usual one,
and no number can be written. -/
inductive AcceptedOptions where
  | whole (o : Options)
  | fractional (o : Options)

namespace AcceptedOptions

/-- The options themselves. -/
def options : AcceptedOptions → Options
  | whole o => o
  | fractional o => o

/-- What a function of the options gives, unless it writes numbers and that cannot be done. -/
def apply {α : Type} (a : AcceptedOptions) (writesNumbers : Options → Bool) (f : Options → α) :
    Except FixedError α :=
  match a with
  | whole o => .ok (f o)
  | fractional o => if writesNumbers o then .error .fractional else .ok (f o)

end AcceptedOptions

/-- Checks the target first and then the precision; a truth value is one or zero. -/
def LooseRequest.check (r : LooseRequest) : Except OptionsError AcceptedOptions :=
  match r.target with
  | .value v => .error (.notATarget v)
  | .known target =>
    let request (precision : Int) : OptionsRequest :=
      ⟨target, precision, r.useOpacity, r.explicitAlpha⟩
    match r.precision with
    | .float x =>
      if Float.ofInt leastPrecision ≤ x && x ≤ Float.ofInt mostPrecision then
        (request 2).check.map .fractional
      else .error (.precisionOutOfRange r.precision)
    | v =>
      match v.keyInt? with
      | some n => (request n).check.map .whole
      | none => .error (.precisionNotANumber v)

end CssColor
