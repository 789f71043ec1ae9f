import CssColor.Color.Space
import CssColor.Value.Literal

/-!
# Target formats

- `Target`: the notations that a colour can be written in.
- `Target.parse`: the target of a name, in any letter case and with blanks
  around it.
-/

namespace CssColor

/-- A notation that colours are written in. -/
inductive Target where
  | oklch
  | oklab
  | lch
  | lab
  | rgb
  | hsl
  | hex
  deriving DecidableEq, Repr

namespace Target

/-- All targets, in the order in which they are listed. -/
def all : List Target :=
  [oklch, oklab, lch, lab, rgb, hsl, hex]

/-- The name of a target. -/
def name : Target → Text
  | oklch => "oklch".toList
  | oklab => "oklab".toList
  | lch => "lch".toList
  | lab => "lab".toList
  | rgb => "rgb".toList
  | hsl => "hsl".toList
  | hex => "hex".toList

/-- The notation as it looks in a stylesheet. -/
def label : Target → Text
  | hex => "#rrggbb[aa]".toList
  | t => t.name ++ "()".toList

/-- What a target is, for people who choose one. -/
def description : Target → Text
  | oklch => "Perceptual OKLCH".toList
  | oklab => "Perceptual OKLab".toList
  | lch => "CIELCH".toList
  | lab => "CIELAB".toList
  | rgb => "RGB functional syntax".toList
  | hsl => "HSL functional syntax".toList
  | hex => "Hex (optionally with alpha)".toList

/-- The space that a target writes its components in. -/
def space : Target → Space
  | oklch => .oklch
  | oklab => .oklab
  | lch => .lch
  | lab => .lab
  | rgb => .srgb
  | hsl => .hsl
  | hex => .srgb

/-- The target with the given name. -/
def ofName? (t : Text) : Option Target :=
  all.find? fun target => target.name == t

/-- Every target is listed. -/
theorem mem_all (target : Target) : target ∈ all := by
  cases target <;> decide

/-- A target is found under its name. -/
theorem ofName?_name (target : Target) : ofName? target.name = some target := by
  cases target <;> decide

end Target

/-- A text names no target. -/
structure UnknownTarget where
  name : Text
  deriving DecidableEq, Repr

/-- The message shows the text as it was given, and the names there are. -/
def UnknownTarget.message (e : UnknownTarget) : Text :=
  "Unknown target format '".toList ++ e.name ++ "' (expected one of: ".toList
    ++ Text.joined ", ".toList (Target.all.map Target.name) ++ ")".toList

/-- The target that a text names. -/
def Target.parse (t : Text) : Except UnknownTarget Target :=
  match Target.ofName? t.trim.lowercase with
  | some target => .ok target
  | none => .error ⟨t⟩

/-- The target that a value names by its text. -/
def Target.ofValue (v : Value) : Except UnknownTarget Target :=
  Target.parse v.plain

end CssColor
