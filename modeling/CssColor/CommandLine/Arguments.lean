import CssColor.CommandLine.Word
import CssColor.Fault
import CssColor.Report
import CssColor.Settings.Basic

/-!
# Arguments of a run

- `LineRange`: a range of lines, counted from one.
- `Given`: what a command line gives as the value of a switch.
- `Arguments`: what a command line asks for.
- `Arguments.parse`: what a command line asks for, unless it stops the run: with
  a request for help or the version, or with a usage error.
- `Arguments.request`: the options that arguments and settings ask for together.

The files of a run stand in one group; arguments after that group and its
switches are unrecognized. Two hyphens right behind a switch are not read as its
value: the switch is given, and has none.
-/

namespace CssColor

/-- A range of lines, counted from one. -/
@[ext] structure LineRange where
  first : Nat
  last : Nat
  one_le_first : 1 ≤ first
  first_le_last : first ≤ last
  deriving Repr

namespace LineRange

instance : DecidableEq LineRange :=
  fun _ _ => decidable_of_iff _ LineRange.ext_iff.symm

/-- The text before and after the first colon; a range of one line has no colon. -/
def splitColon : Text → Text × Option Text
  | [] => ([], none)
  | ':' :: rest => ([], some rest)
  | c :: rest =>
    let (before, after) := splitColon rest
    (c :: before, after)

/-- The range between two whole numbers. -/
def ofInts? (first last : Int) : Option LineRange :=
  if h : 1 ≤ first ∧ first ≤ last then
    some ⟨first.toNat, last.toNat, by omega, by omega⟩
  else none

/-- The range that a text denotes. -/
def ofText? (t : Text) : Option LineRange :=
  let (before, after) := splitColon t
  match before.integer, after.map Text.integer with
  | .ok n, none => ofInts? n n
  | .ok m, some (.ok n) => ofInts? m n
  | _, _ => none

end LineRange

/-- What a command line gives as the value of a switch. -/
inductive Given (α : Type) where
  /-- The switch is not there. -/
  | absent
  /-- The switch is there, and has no value. -/
  | blank
  | value (a : α)
  deriving DecidableEq, Repr

/-- The value, if there is one. -/
def Given.value? {α : Type} : Given α → Option α
  | absent => none
  | blank => none
  | value a => some a

/-- What a command line asks for. -/
structure Arguments where
  files : List Text := []
  target : Given Target := .absent
  precision : Given Int := .absent
  useOpacity : Option Bool := none
  config : Given Text := .absent
  prompt : Bool := false
  lines : Given LineRange := .absent
  inPlace : Bool := false
  report : Given ReportFormat := .absent
  listErrors : Bool := false
  verbose : Bool := false
  quiet : Bool := false
  deriving DecidableEq, Repr

/-- What stops a run before it begins. -/
inductive Stop where
  | help
  | version
  | usage (e : UsageError)
  deriving DecidableEq, Repr

namespace Arguments

/-- The arguments with a switch that has no value. Only one of the two that settle what is logged
may be given. -/
def turn (a : Arguments) : Switch → Except Stop Arguments
  | .help => .error .help
  | .version => .error .version
  | .opacity keep => .ok { a with useOpacity := some keep }
  | .prompt => .ok { a with prompt := true }
  | .inPlace => .ok { a with inPlace := true }
  | .listErrors => .ok { a with listErrors := true }
  | .verbose =>
    if a.quiet then .error (.usage (.switch .verbose (.excluded .quiet)))
    else .ok { a with verbose := true }
  | .quiet =>
    if a.verbose then .error (.usage (.switch .quiet (.excluded .verbose)))
    else .ok { a with quiet := true }
  | _ => .ok a

/-- The arguments with a switch that has no value where one belongs to it. -/
def putBlank (a : Arguments) : Switch → Arguments
  | .target => { a with target := .blank }
  | .precision => { a with precision := .blank }
  | .config => { a with config := .blank }
  | .lines => { a with lines := .blank }
  | .report => { a with report := .blank }
  | _ => a

/-- The arguments with a switch and the text in the place of its value; what is given last
counts. -/
def put (a : Arguments) (s : Switch) (value : Text) : Except Stop Arguments :=
  let refuse (e : SwitchError) : Except Stop Arguments := .error (.usage (.switch s e))
  if value = separatorText then .ok (a.putBlank s)
  else match s with
    | .target =>
      match Target.parse value with
      | .ok target => .ok { a with target := .value target }
      | .error e => refuse (.target e)
    | .precision =>
      match value.integer with
      | .ok n => .ok { a with precision := .value n }
      | .error _ => refuse (.integer value)
    | .config => .ok { a with config := .value value }
    | .lines =>
      match LineRange.ofText? value with
      | some r => .ok { a with lines := .value r }
      | none => refuse (.lineRange value)
    | .report =>
      match ReportFormat.ofName? value with
      | some f => .ok { a with report := .value f }
      | none => refuse (.reportFormat value)
    | _ => .ok a

/-! ## From words to arguments -/

/-- How far the group of files is. -/
inductive Group where
  | ahead
  | here
  | over
  deriving DecidableEq, Repr

/-- What is known after some words: the arguments, the group of files, what was not recognized,
and switches that wait for the value of the last of them. -/
structure Reading where
  arguments : Arguments := {}
  group : Group := .ahead
  unrecognized : List Text := []
  awaiting : Option (List Switch × Switch) := none

namespace Reading

/-- A plain text: a file, unless the group of files is over. -/
def plain (r : Reading) (t : Text) : Reading :=
  match r.group with
  | .over => { r with unrecognized := r.unrecognized ++ [t] }
  | _ =>
    { r with arguments := { r.arguments with files := r.arguments.files ++ [t] }, group := .here }

/-- The mark after which all is plain. -/
def separator (r : Reading) : Reading :=
  match r.group with
  | .over => { r with unrecognized := r.unrecognized ++ [separatorText] }
  | _ => { r with group := .here }

/-- A group of files that has begun is over. -/
def close (r : Reading) : Reading :=
  match r.group with
  | .here => { r with group := .over }
  | _ => r

/-- Switches without a value, in order. -/
def turnAll (r : Reading) (switches : List Switch) : Except Stop Reading :=
  (switches.foldlM Arguments.turn r.arguments).map fun a => { r with arguments := a }

/-- A switch and its value. -/
def put (r : Reading) (s : Switch) (value : Text) : Except Stop Reading :=
  (r.arguments.put s value).map fun a => { r with arguments := a }

/-- An argument with switches. -/
def switches (r : Reading) (c : Cluster) : Except Stop Reading :=
  match c.ending with
  | .complete => r.turnAll c.plain
  | .valued s value => (r.turnAll c.plain).bind fun r => r.put s value
  | .awaiting s => .ok { r with awaiting := some (c.plain, s) }

/-- One more word. -/
def word (r : Reading) (w : Word) : Except Stop Reading :=
  match r.awaiting, w with
  | some (plain, s), .plain value =>
    ({ r with awaiting := none }.turnAll plain).bind fun r => r.put s value
  | some (_, s), _ => .error (.usage (.switch s .valueMissing))
  | none, .plain t => .ok (r.plain t)
  | none, .separator => .ok r.separator
  | none, .unknown t => .ok { r.close with unrecognized := r.unrecognized ++ [t] }
  | none, .switch w =>
    match Cluster.ofWritten w with
    | .error e => .error (.usage e)
    | .ok c => r.close.switches c

/-- The arguments, once there are no more words. -/
def finish (r : Reading) : Except Stop Arguments :=
  match r.awaiting with
  | some (_, s) => .error (.usage (.switch s .valueMissing))
  | none =>
    if r.unrecognized.isEmpty then .ok r.arguments
    else .error (.usage (.unrecognized r.unrecognized))

end Reading

/-- What a command line asks for, or why the run stops. -/
def parse (argv : List Text) : Except Stop Arguments :=
  match Word.read argv with
  | .error e => .error (.usage e)
  | .ok words => (words.foldlM Reading.word {}).bind Reading.finish

/-! ## Options -/

/-- The options that arguments ask for: each switch that is given goes before its setting, and a
chosen target before the settings' own. A precision without a value is refused. -/
def request (a : Arguments) (s : Settings) (chosen : Option Target) :
    Except Fault OptionsRequest :=
  let asked (precision : Int) : OptionsRequest :=
    { target := chosen.getD s.target
      precision := limitPrecision precision
      useOpacity := a.useOpacity.getD s.useOpacity }
  match a.precision with
  | .absent => .ok (asked s.precision)
  | .blank => .error .blankPrecision
  | .value n => .ok (asked n)

end Arguments

end CssColor
