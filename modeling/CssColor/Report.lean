import CssColor.Result
import CssColor.Value.Literal

/-!
# Reports

- `Status`: what became of a text.
- `summarizeErrors`: the tokens that failed, on one line.
- `Result.report`: a result without its text, as lines or as JSON, unless its count
  has too many digits; `Result.reportText`: the same whatever the count.
-/

namespace CssColor

/-- What became of a text: something was rewritten, no declaration was found, or none that was
found could be converted. -/
inductive Status where
  | converted
  | noMatches
  | noConvertibleMatches
  deriving DecidableEq, Repr

/-- The name of a status. -/
def Status.name : Status → Text
  | .converted => "converted".toList
  | .noMatches => "no_matches".toList
  | .noConvertibleMatches => "no_convertible_matches".toList

/-- The status of a result. -/
def Result.status (r : Result) : Status :=
  if r.changed then .converted
  else if r.hasErrors then .noConvertibleMatches
  else .noMatches

/-- The form of a report. -/
inductive ReportFormat where
  | text
  | json
  deriving DecidableEq, Repr

namespace ReportFormat

/-- The name of a form. -/
def name : ReportFormat → Text
  | text => "text".toList
  | json => "json".toList

/-- The form with the given name. -/
def ofName? (t : Text) : Option ReportFormat :=
  [text, json].find? fun f => f.name == t

/-- A form is found under its name. -/
theorem ofName?_name (f : ReportFormat) : ofName? f.name = some f := by
  cases f <;> decide

end ReportFormat

/-- A value names no form of report. -/
structure UnknownReportFormat where
  value : Value

/-- The message shows the value as a literal. -/
def UnknownReportFormat.message (e : UnknownReportFormat) : Text :=
  e.value.literal ++ " is not a valid ReportFormat".toList

/-- The form that a value names. -/
def ReportFormat.ofValue (v : Value) : Except UnknownReportFormat ReportFormat :=
  let named? : Option ReportFormat :=
    match v with
    | .text t => ofName? t
    | _ => none
  match named? with
  | some f => .ok f
  | none => .error ⟨v⟩

/-- No more failing tokens are shown than this, unless asked for. -/
def mostErrorsShown : Int := 80

/-- The line on some number of tokens that failed, with those that are listed. -/
def failureLine (count : Nat) (listed : List Text) : Text :=
  "Cannot convert ".toList ++ natText count ++ " color(s). ".toList
    ++ Text.joined ", ".toList listed

/-- One line on the tokens that failed, of which the first `shown` are listed. -/
def summarizeErrors (errorColors : List Text) (shown : Int) : Text :=
  failureLine errorColors.length (firstItems errorColors shown)

/-- The line on a status, with the count of edits. -/
def Status.line (count : Text) : Status → Text
  | .converted => "Converted ".toList ++ count ++ " color declaration(s).".toList
  | .noMatches => "No color declarations found.".toList
  | .noConvertibleMatches => "Found color declarations, but none could be converted.".toList

/-- The line on what became of a text. -/
def Result.statusLine (r : Result) : Text :=
  r.status.line (intText r.editsApplied)

/-- The report as a JSON object: the status before the counts and failures. -/
def Result.reportJson (r : Result) : Json :=
  .object (("status".toList, .string r.status.name) :: r.counts)

/-- The report on a result, whatever its count: it leaves out the converted text. -/
def Result.reportText (r : Result) (format : ReportFormat) (shown : Int) : Text :=
  match format with
  | .json => r.reportJson.layOut .lines 0
  | .text =>
    if r.hasErrors then r.statusLine ++ '\n' :: summarizeErrors r.errorColors shown
    else r.statusLine

/-- The report on a result under a limit on digits. In lines the count is shown of what is converted
only. -/
def Result.report (limit : DigitLimit) (r : Result) (format : ReportFormat) (shown : Int) :
    Except LongNumber Text :=
  match format, r.status with
  | .json, _ => r.reportJson.indented limit
  | .text, .converted => (limit.check r.editsApplied).map fun _ => r.reportText .text shown
  | .text, _ => .ok (r.reportText .text shown)

end CssColor
