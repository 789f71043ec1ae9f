import CssColor.Json.Printer

/-!
# Results of a conversion

- `Result`: the converted text, how many declarations were rewritten, and the
  tokens that failed.
- `Result.toJson`: a result as a JSON object.
-/

namespace CssColor

/-- What a conversion of a text gives. -/
structure Result where
  output : Text
  editsApplied : Int := 0
  errorColors : List Text := []
  deriving DecidableEq, Repr

namespace Result

/-- Whether a declaration was rewritten. -/
def changed (r : Result) : Bool :=
  0 < r.editsApplied

/-- Whether a token failed. -/
def hasErrors (r : Result) : Bool :=
  !r.errorColors.isEmpty

/-- The counts and failures of a result as members of an object. -/
def counts (r : Result) : List (Text × Json) :=
  [("edits_applied".toList, .int r.editsApplied),
   ("error_colors".toList, .array (r.errorColors.map .string))]

/-- The result as an object. -/
def toJson (r : Result) : Json :=
  .object (r.counts ++ [("output".toList, .string r.output)])

/-- The result as an object, without the converted text. -/
def toReportJson (r : Result) : Json :=
  .object r.counts

end Result

end CssColor
