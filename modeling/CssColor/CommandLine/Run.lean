import CssColor.CommandLine.Arguments
import CssColor.CommandLine.Prompt
import CssColor.CommandLine.Session
import CssColor.CommandLine.Usage
import CssColor.Conversion
import CssColor.Settings.File
import CssColor.Text.Line

/-!
# Runs of the command

- `ColorLibrary.convertLines`, `convertLines`: the conversion of a text, or of some
  lines of it, with any colour library and with the one of this development.
- `deliver`: what becomes of a result.
- `convertFile`, `convertFiles`: one file after the other; the first that cannot
  be read or written ends the run.
- `prepare`, `Prepared.finish`: a run up to its first use of the input, and from
  there on.
- `run`: a whole run.
-/

namespace CssColor

/-! ## Converting a text -/

/-- The part of a text that a range of lines selects; without a range, all of it. -/
def selectedPart (lines : Option LineRange) (t : Text) : Text :=
  match lines with
  | none => t
  | some r =>
    let (start, stop) := t.lineSpan r.first r.last
    t.slice start stop

/-- The conversion of the lines of a text in a range with a colour library; without a range, of all
of it. A range past the end selects nothing. -/
def ColorLibrary.convertLines (l : ColorLibrary) (o : Options) (lines : Option LineRange)
    (t : Text) : Result :=
  match lines with
  | none => l.convert o t
  | some r =>
    let (start, stop) := t.lineSpan r.first r.last
    if start = stop then { output := t } else l.convertRegion o t start stop

/-- The conversion of the lines of a text in a range; without a range, of all of it. -/
def convertLines (o : Options) (lines : Option LineRange) (t : Text) : Result :=
  ColorLibrary.own.convertLines o lines t

/-! ## Messages -/

namespace Arguments

/-- The least weight of the messages that are logged. -/
def leastLevel (a : Arguments) : LogLevel :=
  if a.verbose then .debug else if a.quiet then .error else .info

end Arguments

/-- The name of the standard input among the files. -/
def inputName : Text := ['-']

/-- A file as messages name it. -/
def sourceName (name : Text) : Text :=
  if name = inputName then "<stdin>".toList else name

/-- The messages about the attempts at a text: each failure, and how many edits follow from the
rest. -/
def attemptMessages (tried : List Attempt) : List Text :=
  let failures := tried.filterMap fun a =>
    match a.outcome with
    | .ok _ => none
    | .error e =>
      some ("Skipping ".toList ++ a.declaration.token.quote ++ " at ".toList
        ++ natText a.declaration.start ++ ": ".toList ++ e.message)
  let edits := tried.length - failures.length
  if edits = 0 then failures
  else
    failures ++ ["Applying ".toList ++ natText edits ++ " edit(s), ".toList
      ++ natText failures.length ++ " failure(s)".toList]

/-- What became of a file. -/
def resultMessage (r : Result) : Text :=
  match r.status with
  | .converted => "converted ".toList ++ intText r.editsApplied ++ " color declaration(s)".toList
  | .noMatches => "no color declarations found".toList
  | .noConvertibleMatches =>
    "found color declarations, but none could be converted".toList

namespace Session

/-- Logs the attempts at a text, if messages of so little weight are logged. -/
def logAttempts (s : Session) (a : Arguments) (o : Options) (t : Text) : Session :=
  if a.verbose then
    (attemptMessages (attempts (convertToken o) t)).foldl
      (fun s message => s.log a.leastLevel .debug message) s
  else s

/-- Logs what became of a file, and which colours failed. -/
def logResult (s : Session) (least : LogLevel) (name : Text) (r : Result) : Session :=
  let source := sourceName name ++ ": ".toList
  let s := s.log least .info (source ++ resultMessage r)
  if r.hasErrors then
    s.log least .warning (source ++ summarizeErrors r.errorColors mostErrorsShown)
  else s

/-- Writes the report and the list of failures that are asked for; a report whose form has no value
is one in lines. What a run counts are declarations of a text, which are never so many that the
count would have too many digits. -/
def tellReport (s : Session) (a : Arguments) (r : Result) : Session :=
  let s :=
    match a.report with
    | .absent => s
    | .blank => s.tellLine (r.reportText .text mostErrorsShown)
    | .value format => s.tellLine (r.reportText format mostErrorsShown)
  if a.listErrors then r.errorColors.foldl Session.tellLine s else s

/-- The text of a file, and the session after it is read. The standard input is read to its end,
so that it is empty from then on. -/
def readSource (s : Session) (name : Text) : Except (Failure FileError) (Text × Session) :=
  if name = inputName then
    match s.disk.unreadable.lookup inputName with
    | some reason => .error (.told (.other reason))
    | none => .ok (s.input, { s with input := [] })
  else (s.disk.readText name).map fun t => (t, s)

end Session

/-! ## Files -/

/-- What becomes of a result: it is written to its file if that is asked for, and else printed. A
file whose text stays as it is is not written. -/
def deliver (a : Arguments) (name : Text) (r : Result) (s : Session) :
    Except Outcome (Session × Result) :=
  if a.inPlace then
    if r.changed then
      match s.disk.overwrite name r.output.utf8 with
      | .error e =>
        .error ⟨.exit exitRefused, s.log a.leastLevel .error
          ("Cannot write ".toList ++ name ++ ": ".toList ++ e.message name)⟩
      | .ok disk => .ok ({ s with disk }.tellReport a r, r)
    else .ok (s.tellReport a r, r)
  else .ok ((s.print r.output).tellReport a r, r)

/-- The session after one file, and the result of its conversion; or how the run ends there. A range
of lines without its ends is a fault once there is a text to select them from. -/
def convertFile (a : Arguments) (o : Options) (name : Text) (s : Session) :
    Except Outcome (Session × Result) :=
  match s.readSource name with
  | .error (.fault f) => .error ⟨.fault f, s⟩
  | .error (.told e) =>
    .error ⟨.exit exitRefused, s.log a.leastLevel .error
      ("Cannot read ".toList ++ name ++ ": ".toList ++ e.message name)⟩
  | .ok (t, s) =>
    if a.lines = .blank then .error ⟨.fault .blankLines, s⟩
    else
      let r := convertLines o a.lines.value? t
      let s := s.logAttempts a o (selectedPart a.lines.value? t)
      let s := s.logResult a.leastLevel name r
      deliver a name r s

/-- The rest of a run: the files in order. A colour that failed shows in the exit code. -/
def convertFiles (a : Arguments) (o : Options) : List Text → Nat → Session → Outcome
  | [], code, s => ⟨.exit code, s⟩
  | name :: rest, code, s =>
    match convertFile a o name s with
    | .error outcome => outcome
    | .ok (s, r) => convertFiles a o rest (if r.hasErrors then exitColorErrors else code) s

/-! ## Whole runs -/

/-- What is settled before a run uses its input. -/
structure Plan where
  arguments : Arguments
  settings : Settings
  files : List Text

/-- A run up to its first use of the input: it may be over, it may ask for a target, or it may go
on to its files. -/
inductive Prepared where
  | over (o : Outcome)
  | asking (p : Plan) (s : Session)
  | ready (p : Plan) (s : Session)

/-- The end of a run that stops before it begins. -/
def Stop.outcome (stop : Stop) (s : Session) : Outcome :=
  match stop with
  | .help => ⟨.exit exitOk, s.print helpText⟩
  | .version => ⟨.exit exitOk, s.print versionText⟩
  | .usage e => ⟨.exit exitRefused, (s.tell usageText).tellLine e.message⟩

/-- Loads the settings. -/
def loadSettings (a : Arguments) (s : Session) : Except Outcome (Settings × Session) :=
  if a.config = .blank then .error ⟨.fault (.noFileName (Value.list []).kind), s⟩
  else match Settings.load s.depths a.config.value? s.disk with
    | .error (.fault f) => .error ⟨.fault f, s⟩
    | .error (.told e) => .error ⟨.exit exitRefused, s.log a.leastLevel .error e.message⟩
    | .ok (settings, none) => .ok (settings, s)
    | .ok (settings, some name) =>
      .ok (settings, s.log a.leastLevel .debug
        ("Loaded settings from ".toList ++ name ++ ": ".toList ++ settings.literal))

/-- A run up to its first use of the input. -/
def prepare (argv : List Text) (s : Session) : Prepared :=
  match Arguments.parse argv with
  | .error stop => .over (stop.outcome s)
  | .ok a =>
    match loadSettings a s with
    | .error outcome => .over outcome
    | .ok (settings, s) =>
      let refused (message : String) : Prepared :=
        .over ⟨.exit exitRefused, s.log a.leastLevel .error message.toList⟩
      let files := if a.files.isEmpty then [inputName] else a.files
      if a.inPlace && files.contains inputName then refused "--in-place needs FILE arguments"
      else if a.target = .absent ∧ (a.prompt || settings.promptForFormat) then
        if files.contains inputName then
          refused "--prompt cannot read the format and the text from stdin"
        else .asking ⟨a, settings, files⟩ (s.tell (targetMenu settings.target))
      else .ready ⟨a, settings, files⟩ s

/-- The files of a plan, with the target that is chosen if there is one. -/
def Plan.convert (p : Plan) (chosen : Option Target) (s : Session) : Outcome :=
  match p.arguments.request p.settings chosen with
  | .error f => ⟨.fault f, s⟩
  | .ok request =>
    match request.check with
    | .error e => ⟨.fault (.options e), s⟩
    | .ok o => convertFiles p.arguments o p.files exitOk s

/-- A run from its first use of the input. -/
def Prepared.finish : Prepared → Outcome
  | .over outcome => outcome
  | .ready p s => p.convert p.arguments.target.value? s
  | .asking p s =>
    let (line, rest) := splitLine s.input
    match targetAnswer p.settings.target line with
    | .error f => ⟨.fault f, { s with input := rest }⟩
    | .ok none =>
      ⟨.exit exitOk, { s with input := rest }.log p.arguments.leastLevel .info
        "No format selected; nothing converted.".toList⟩
    | .ok (some target) => p.convert (some target) { s with input := rest }

/-- A whole run. -/
def run (argv : List Text) (s : Session) : Outcome :=
  (prepare argv s).finish

end CssColor
