import CssColor.Json.Number
import CssColor.Json.Reader
import CssColor.Report

/-!
# Records of results

- `Record`: the parts of a result as documents of any kind.
- `Record.ofJson`: the record that a document holds.
- `Record.status`, `Json.summarize`, `Record.report`: as for results, unless a
  part is of a kind that cannot be used.
- `Record.readsBack`: whether a record survives its JSON text.
- `Result.record`, `Record.result?`: from results to records and back.

The record of a result reads back from its JSON, and has the same status and
reports.
-/

namespace CssColor

/-- The parts of a result as documents of any kind. -/
structure Record where
  output : Json
  editsApplied : Json
  errorColors : List Json

/-- Why a document is no record, or why a record cannot be used. -/
inductive RecordError where
  /-- A member is missing. -/
  | missing (name : Text)
  /-- A document has no members. -/
  | noMembers (j : Json)
  /-- The failures are nothing that has parts. -/
  | noParts (j : Json)
  /-- The failures are nothing of which the first can be taken. -/
  | noFirst (j : Json)
  /-- A count is of a kind that cannot be used. -/
  | count (e : OperandError)
  /-- A failure is no text. -/
  | noText (place : Nat) (j : Json)
  /-- A number has too many digits to be shown. -/
  | long (e : LongNumber)

/-- The message of a record error. -/
def RecordError.message : RecordError → Text
  | .missing name => name.quote
  | .noMembers (.array _) => "list indices must be integers or slices, not str".toList
  | .noMembers (.string _) => "string indices must be integers, not 'str'".toList
  | .noMembers j => '\'' :: j.kind ++ "' object is not subscriptable".toList
  | .noParts j => '\'' :: j.kind ++ "' object is not iterable".toList
  | .noFirst (.object _) => "unhashable type: 'slice'".toList
  | .noFirst j => '\'' :: j.kind ++ "' object is not subscriptable".toList
  | .count e => e.message
  | .noText place j =>
    "sequence item ".toList ++ natText place ++ ": expected str instance, ".toList ++ j.kind
      ++ " found".toList
  | .long e => e.message

/-! ## Failures -/

/-- The texts that documents are, the first of which has the given place. -/
def Json.textsFrom : Nat → List Json → Except RecordError (List Text)
  | _, [] => .ok []
  | place, string t :: rest => (textsFrom (place + 1) rest).map (t :: ·)
  | place, j :: _ => .error (.noText place j)

/-- One line on the parts that failed, of which the first are listed: as many as `shown` says. -/
def summarizeParts (parts : List Json) (shown : Json) : Except RecordError Text := do
  let listed ← (shown.firstOf parts).mapError .count
  let texts ← Json.textsFrom 0 listed
  return failureLine parts.length texts

/-- One line on the failures that a list or a string holds. -/
def Json.summarize (j : Json) (shown : Json) : Except RecordError Text :=
  match j with
  | array items => summarizeParts items shown
  | string t => summarizeParts (t.map fun c => string [c]) shown
  | j => .error (.noFirst j)

/-! ## Records -/

namespace Record

/-- The record that an object holds: the text must be there, counts and failures may be left out. -/
def ofJson (j : Json) : Except RecordError Record :=
  match j with
  | .object _ =>
    match j.member? "output".toList with
    | none => .error (.missing "output".toList)
    | some output =>
      let edits := (j.member? "edits_applied".toList).getD (.int 0)
      let errors := (j.member? "error_colors".toList).getD (.array [])
      match errors.parts? with
      | none => .error (.noParts errors)
      | some parts => .ok ⟨output, edits, parts⟩
  | j => .error (.noMembers j)

/-- The counts and failures of a record as members of an object. -/
def counts (r : Record) : List (Text × Json) :=
  [("edits_applied".toList, r.editsApplied), ("error_colors".toList, .array r.errorColors)]

/-- The record as an object. -/
def toJson (r : Record) : Json :=
  .object (r.counts ++ [("output".toList, r.output)])

/-- The record as an object, without the converted text. -/
def toReportJson (r : Record) : Json :=
  .object r.counts

/-- Whether a declaration was rewritten. -/
def changed (r : Record) : Except RecordError Bool :=
  r.editsApplied.positive.mapError .count

/-- Whether a token failed. -/
def hasErrors (r : Record) : Bool :=
  !r.errorColors.isEmpty

/-- The status of a record. -/
def status (r : Record) : Except RecordError Status :=
  r.changed.map fun changed =>
    if changed then .converted
    else if r.hasErrors then .noConvertibleMatches
    else .noMatches

/-- The report on a record in lines, the first of which is about the given status. -/
def reportLines (r : Record) (status : Status) (shown : Json) : Except RecordError Text :=
  let line := status.line r.editsApplied.numberText
  if r.hasErrors then
    (summarizeParts r.errorColors shown).map fun failures => line ++ '\n' :: failures
  else .ok line

/-- The report on a record under a limit on digits: it leaves out the converted text. In lines the
count is shown of what is converted only. -/
def report (limit : DigitLimit) (r : Record) (format : ReportFormat) (shown : Json) :
    Except RecordError Text := do
  let status ← r.status
  match format, status with
  | .json, _ =>
    let j := Json.object (("status".toList, .string status.name) :: r.counts)
    (j.indented limit).mapError .long
  | .text, .converted =>
    (r.editsApplied.check limit).mapError .long
    r.reportLines status shown
  | .text, _ => r.reportLines status shown

/-- Whether the record that is read back from the JSON text of a record is equal to it. -/
def readsBack (limit : DigitLimit) (r : Record) : Bool :=
  match (r.toJson.indented limit).toOption.bind fun t => (Json.read? limit t).map ofJson with
  | some (.ok s) => r.toJson.same s.toJson
  | _ => false

end Record

/-! ## Records of results -/

namespace Result

/-- The record of a result. -/
def record (r : Result) : Record :=
  ⟨.string r.output, .int r.editsApplied, r.errorColors.map .string⟩

/-- The record of a result is written as the result is. -/
theorem toJson_record (r : Result) : r.record.toJson = r.toJson := rfl

end Result

/-- Texts can be taken out of just the documents that hold them, all of them. -/
theorem Json.textsFrom_eq_ok_iff (place : Nat) (items : List Json) (texts : List Text) :
    Json.textsFrom place items = .ok texts ↔ items = texts.map .string := by
  induction items generalizing place texts with
  | nil => cases texts <;> simp [Json.textsFrom]
  | cons j rest ih =>
    cases j with
    | string t =>
      have step : Json.textsFrom place (.string t :: rest) =
          (Json.textsFrom (place + 1) rest).map (t :: ·) := rfl
      rw [step]
      cases found : Json.textsFrom (place + 1) rest with
      | error e =>
        have none (more : List Text) : rest ≠ more.map .string := by
          intro same
          have succeeds := (ih (place + 1) more).mpr same
          rw [found] at succeeds
          cases succeeds
        cases texts <;> simp [Except.map, none]
      | ok more =>
        have same := (ih (place + 1) more).mp found
        subst same
        cases texts <;> simp [Except.map, List.map_inj_right (fun _ _ h => Json.string.inj h)]
    | _ => cases texts <;> simp [Json.textsFrom]

/-- What has no error keeps its value when errors change. -/
theorem mapError_ok {ε ε' α : Type} (f : ε → ε') (a : α) :
    (Except.ok a : Except ε α).mapError f = .ok a := rfl

/-- The first of some documents are those of the first of what they hold. -/
theorem firstItems_map {α β : Type} (f : α → β) (items : List α) (count : Int) :
    firstItems (items.map f) count = (firstItems items count).map f := by
  unfold firstItems
  split <;> simp

namespace Result

/-- The record of a result has its status. -/
theorem status_record (r : Result) : r.record.status = .ok r.status := by
  simp [Record.status, Record.changed, record, Json.positive, Json.whole?, mapError_ok,
    Except.map, status, changed, Record.hasErrors, hasErrors]

/-- The record of a result has the lines of its report. -/
theorem reportLines_record (r : Result) (shown : Int) :
    r.record.reportLines r.status (.int shown) = .ok (r.reportText .text shown) := by
  have errors : r.record.hasErrors = r.hasErrors := by
    simp [Record.hasErrors, hasErrors, record]
  have line : r.status.line r.record.editsApplied.numberText = r.statusLine := rfl
  simp only [Record.reportLines, errors, line, reportText]
  split
  · have texts := (Json.textsFrom_eq_ok_iff 0 _ (firstItems r.errorColors shown)).mpr rfl
    simp [record, summarizeParts, Json.firstOf_int, firstItems_map, mapError_ok, bind,
      Except.bind, Except.map, pure, Except.pure, texts, summarizeErrors]
  · rfl

/-- The record of a result has its reports. -/
theorem report_record (limit : DigitLimit) (r : Result) (format : ReportFormat) (shown : Int) :
    r.record.report limit format (.int shown) =
      (r.report limit format shown).mapError .long := by
  have lines := r.reportLines_record shown
  have count : r.record.editsApplied.check limit = limit.check r.editsApplied := rfl
  cases format with
  | json =>
    simp only [Record.report, status_record, bind, Except.bind]
    rfl
  | text =>
    cases status : r.status with
    | converted =>
      simp only [Record.report, status_record, report, status, bind, Except.bind, count]
      rw [status] at lines
      rw [lines]
      cases limit.check r.editsApplied <;> rfl
    | _ =>
      rw [status] at lines
      simp only [Record.report, status_record, report, status, bind, Except.bind, lines,
        mapError_ok]

end Result

end CssColor
