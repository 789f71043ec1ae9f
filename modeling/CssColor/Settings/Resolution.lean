import CssColor.Depths
import CssColor.Disk.Basic
import CssColor.Settings.Basic

/-!
# Settings from a value

- `SettingsError`: why a value gives no settings.
- `wholeOf`: the whole number that a value stands for.
- `precisionOf`: the count of decimal places that a value stands for, limited to
  the range.
- `Settings.ofValue`: the settings that a value holds.

A setting has up to two spellings, of which the first that is there counts; a
setting that is left out keeps its default. The entries may stand in a section
of their own, which then counts alone.
-/

namespace CssColor

/-- Why there are no settings. -/
inductive SettingsError where
  /-- A value of the given kind holds no entries. -/
  | notAMapping (kind : Text)
  /-- A value stands for no count of decimal places. -/
  | precision (v : Value)
  /-- A value of the named setting is no truth value. -/
  | notATruth (name : Text) (v : Value)
  /-- A text names no target. -/
  | target (e : UnknownTarget)
  /-- The value in the place of a target is too long to be shown. -/
  | longTarget (e : LongNumber)
  /-- The settings file cannot be read. -/
  | unreadable (name : Text) (e : FileError)
  /-- The settings file is not well formed. -/
  | malformed (name : Text)

/-- The message of a settings error. -/
def SettingsError.message : SettingsError → Text
  | .notAMapping kind => "Settings must be a mapping, got ".toList ++ kind
  | .precision v => "Precision must be an integer, got ".toList ++ v.literal
  | .notATruth name v => name ++ " must be true or false, got ".toList ++ v.literal
  | .target e => e.message
  | .longTarget e => e.message
  | .unreadable name e =>
    "Cannot read settings file ".toList ++ name ++ ": ".toList ++ e.message name
  | .malformed name => "Invalid YAML in ".toList ++ name

/-- Refuses a value with an error that shows it. -/
def refuse {α : Type} (depths : Depths) (v : Value) (e : SettingsError) :
    Except (Failure SettingsError) α :=
  match v.check depths.shown with
  | .ok () => .error (.told e)
  | .error hindrance => .error (.fault (.unshown hindrance))

/-! ## Single values -/

/-- The characters of bytes that are all below 0x80. -/
def asciiText? (bytes : List UInt8) : Option Text :=
  if bytes.all (· < 0x80) then some (bytes.map fun b => Char.ofNat b.toNat) else none

/-- The whole number that a value stands for: a number without its fraction, a truth value as one or
zero, or a text that is a whole number. -/
def wholeOf (v : Value) : Except WholeError Int :=
  let ofText (t : Text) : Except WholeError Int := t.integer.mapError fun _ => .notANumber
  match v with
  | .bool b => .ok (if b then 1 else 0)
  | .int n => .ok n
  | .float x => truncate x
  | .text t => ofText t
  | .bytes bytes =>
    match asciiText? bytes with
    | some t => ofText t
    | none => .error .notANumber
  | _ => .error .notANumber

/-- The count of decimal places that a value stands for; that it is infinite is not told. -/
def precisionOf (depths : Depths) (v : Value) : Except (Failure SettingsError) Int :=
  match wholeOf v with
  | .ok n => .ok (limitPrecision n)
  | .error .notANumber => refuse depths v (.precision v)
  | .error .infinite => .error (.fault (.whole .infinite))

/-- The truth value of the named setting. -/
def truthOf (depths : Depths) (name : Text) : Value → Except (Failure SettingsError) Bool
  | .bool b => .ok b
  | v => refuse depths v (.notATruth name v)

/-- The target that a value names by its text. Of a number that is too long for a text it is told
that it is. -/
def targetOf (depths : Depths) (v : Value) : Except (Failure SettingsError) Target :=
  match v.checkPlain depths.targets with
  | .error .tooDeep => .error (.fault (.unshown .tooDeep))
  | .error (.long e) => .error (.told (.longTarget e))
  | .ok () => (Target.ofValue v).mapError fun e => .told (.target e)

/-! ## Entries -/

namespace Settings

/-- The key of the section that may hold the settings. -/
def sectionKey : Text := "colorConverter".toList

/-- The spellings of the precision. -/
def precisionKeys : List Text := ["precision".toList]

/-- The spellings of whether an alpha of one is kept. -/
def opacityKeys : List Text := ["use_opacity".toList, "useOpacity".toList]

/-- The spellings of the target. -/
def targetKeys : List Text := ["target_format".toList, "targetFormat".toList]

/-- The spellings of whether the target is asked for. -/
def promptKeys : List Text := ["prompt_for_format".toList, "promptForFormat".toList]

/-- The entries that count: those of the section if it holds some, else all. -/
def effective (entries : List (Value × Value)) : List (Value × Value) :=
  match (Value.entry? sectionKey entries).map Value.opened with
  | some (.mapping inner) => inner
  | _ => entries

/-- The value under the first of some spellings that is there. -/
def chosen? (spellings : List Text) (entries : List (Value × Value)) : Option Value :=
  spellings.findSome? fun key => Value.entry? key entries

/-- What a reader gives for the value under some spellings; `fallback` if there is none. -/
def setting {α : Type} (read : Value → Except (Failure SettingsError) α) (spellings : List Text)
    (fallback : α) (entries : List (Value × Value)) : Except (Failure SettingsError) α :=
  match chosen? spellings entries with
  | some v => read v
  | none => .ok fallback

/-- The settings of some entries; of several faulty ones the target's counts, then the
precision's, then those of the truth values. -/
def ofEntries (depths : Depths) (entries : List (Value × Value)) :
    Except (Failure SettingsError) Settings := do
  let defaults : Settings := {}
  let target ← setting (targetOf depths) targetKeys defaults.target entries
  let precision ← setting (precisionOf depths) precisionKeys defaults.precision entries
  let useOpacity ←
    setting (truthOf depths "use_opacity".toList) opacityKeys defaults.useOpacity entries
  let promptForFormat ←
    setting (truthOf depths "prompt_for_format".toList) promptKeys defaults.promptForFormat entries
  return ⟨precision, useOpacity, target, promptForFormat⟩

/-- The settings that a value holds; null stands for the defaults. -/
def ofValue (depths : Depths) (v : Value) : Except (Failure SettingsError) Settings :=
  match v.opened with
  | .null => .ok {}
  | .mapping entries => ofEntries depths (effective entries)
  | v => .error (.told (.notAMapping v.kind))

end Settings

end CssColor
