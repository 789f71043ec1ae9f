import CssColor.Target
import CssColor.Text.Integer

/-!
# Switches of the command line

- `Switch`: what can be switched on a command line.
- `Switch.spellings`: the names under which each of them goes.
- `UsageError`: why a command line is refused.
-/

namespace CssColor

/-- What a command line can switch. -/
inductive Switch where
  | help
  | target
  | precision
  | opacity (keep : Bool)
  | config
  | prompt
  | lines
  | inPlace
  | report
  | listErrors
  | verbose
  | quiet
  | version
  deriving DecidableEq, Repr

namespace Switch

/-- The names of all switches, in the order in which messages list them. -/
def spellings : List (Text × Switch) :=
  [("-h".toList, help), ("--help".toList, help),
   ("-t".toList, target), ("--to".toList, target),
   ("-p".toList, precision), ("--precision".toList, precision),
   ("--opacity".toList, opacity true), ("--no-opacity".toList, opacity false),
   ("-c".toList, config), ("--config".toList, config),
   ("--prompt".toList, prompt), ("--lines".toList, lines),
   ("-i".toList, inPlace), ("--in-place".toList, inPlace),
   ("--report".toList, report), ("--list-errors".toList, listErrors),
   ("-v".toList, verbose), ("--verbose".toList, verbose),
   ("-q".toList, quiet), ("--quiet".toList, quiet),
   ("--version".toList, version)]

/-- The switch with the given name. -/
def ofName? (name : Text) : Option Switch :=
  spellings.lookup name

/-- The switches whose names begin like a text, with these names. -/
def startingWith (t : Text) : List (Text × Switch) :=
  spellings.filter fun (name, _) => t.isPrefixOf name

/-- Whether a value belongs to a switch. -/
def takesValue : Switch → Bool
  | target => true
  | precision => true
  | config => true
  | lines => true
  | report => true
  | _ => false

/-- A switch as messages name it, with all its names. -/
def label : Switch → Text
  | help => "-h/--help".toList
  | target => "-t/--to".toList
  | precision => "-p/--precision".toList
  | opacity _ => "--opacity/--no-opacity".toList
  | config => "-c/--config".toList
  | prompt => "--prompt".toList
  | lines => "--lines".toList
  | inPlace => "-i/--in-place".toList
  | report => "--report".toList
  | listErrors => "--list-errors".toList
  | verbose => "-v/--verbose".toList
  | quiet => "-q/--quiet".toList
  | version => "--version".toList

end Switch

/-! ## Errors -/

/-- What is wrong with a switch on a command line. -/
inductive SwitchError where
  /-- Its value is missing. -/
  | valueMissing
  /-- There is a value, and none belongs to it. -/
  | valueUnwanted (t : Text)
  /-- It excludes a switch that was given before. -/
  | excluded (other : Switch)
  /-- Its value names no target. -/
  | target (e : UnknownTarget)
  /-- Its value is no whole number. -/
  | integer (t : Text)
  /-- Its value is no range of lines. -/
  | lineRange (t : Text)
  /-- Its value is no form of report. -/
  | reportFormat (t : Text)
  deriving DecidableEq, Repr

/-- The message of a switch error. -/
def SwitchError.message : SwitchError → Text
  | .valueMissing => "expected one argument".toList
  | .valueUnwanted t => "ignored explicit argument ".toList ++ t.quote
  | .excluded other => "not allowed with argument ".toList ++ other.label
  | .target e => e.message
  | .integer t => "invalid int value: ".toList ++ t.quote
  | .lineRange t => "invalid line range '".toList ++ t ++ ['\'']
  | .reportFormat t => "invalid ReportFormat value: ".toList ++ t.quote

/-- Why a command line is refused. -/
inductive UsageError where
  /-- A shortened name stands for several switches. -/
  | ambiguous (written : Text) (names : List Text)
  /-- Something is wrong with a switch. -/
  | switch (s : Switch) (e : SwitchError)
  /-- Some arguments have no meaning. -/
  | unrecognized (arguments : List Text)
  deriving DecidableEq, Repr

/-- The message of a usage error. -/
def UsageError.message : UsageError → Text
  | .ambiguous written names =>
    "ambiguous option: ".toList ++ written ++ " could match ".toList
      ++ Text.joined ", ".toList names
  | .switch s e => "argument ".toList ++ s.label ++ ": ".toList ++ e.message
  | .unrecognized arguments =>
    "unrecognized arguments: ".toList ++ Text.joined " ".toList arguments

end CssColor
