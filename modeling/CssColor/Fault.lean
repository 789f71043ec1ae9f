import CssColor.Options
import CssColor.Text.Utf8
import CssColor.Yaml.Error

/-!
# Faults

- `Fault`: what ends a run at once, without an exit code.
- `Failure`: why a step gives nothing. Either there is an error to tell, after
  which the run ends in order, or there is a fault.
-/

namespace CssColor

/-- What ends a run at once. -/
inductive Fault where
  /-- A number that must be whole has no whole part. -/
  | whole (e : WholeError)
  /-- A text that must be a whole number is none. -/
  | integer (e : IntegerError)
  /-- A file holds bytes that are no text. -/
  | bytes (e : Utf8Error)
  /-- A settings file holds a scalar or number that denotes nothing. -/
  | scalar (e : Yaml.ScalarError)
  /-- A message would show a value that cannot be shown. -/
  | unshown (e : ShowError)
  /-- A file's name holds the null character. -/
  | nullInName
  /-- Options of a conversion are refused. -/
  | options (e : OptionsError)
  /-- A precision is given without a value. -/
  | blankPrecision
  /-- A settings file is named by a value of a kind that names no file. -/
  | noFileName (kind : Text)
  /-- A range of lines is given without its ends. -/
  | blankLines

/-- The message of a fault. -/
def Fault.message : Fault → Text
  | .whole e => e.message
  | .integer e => e.message
  | .bytes e => e.message
  | .scalar e => e.message
  | .unshown e => e.message
  | .nullInName => "embedded null byte".toList
  | .options e => e.message
  | .blankPrecision => "Precision must be an integer, got []".toList
  | .noFileName kind => "expected str, bytes or os.PathLike object, not ".toList ++ kind
  | .blankLines =>
    "line_span() missing 2 required positional arguments: 'first' and 'last'".toList

/-- Why a step gives nothing: for an error that is told, or for a fault. -/
inductive Failure (ε : Type) where
  | told (e : ε)
  | fault (f : Fault)

end CssColor
