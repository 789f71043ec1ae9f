import CssColor.Depths
import CssColor.Disk.Basic

/-!
# Sessions

- `Session`: what a run reads and writes: the input that is left, both outputs,
  and the disk; and how far it can go down into settings.
- `LogLevel`, `Session.log`: messages by their weight.
- `Ending`, `Outcome`: how a run ends, and what it leaves behind.
-/

namespace CssColor

/-- What a run reads and writes. -/
structure Session where
  input : Text := []
  stdout : Text := []
  stderr : Text := []
  disk : Disk := {}
  depths : Depths := {}
  deriving DecidableEq, Repr

/-- How much a message weighs. -/
inductive LogLevel where
  | debug
  | info
  | warning
  | error
  deriving DecidableEq, Repr

namespace LogLevel

/-- The name of a level. -/
def name : LogLevel → Text
  | debug => "DEBUG".toList
  | info => "INFO".toList
  | warning => "WARNING".toList
  | error => "ERROR".toList

/-- The place of a level in their order. -/
def rank : LogLevel → Nat
  | debug => 0
  | info => 1
  | warning => 2
  | error => 3

end LogLevel

namespace Session

/-- Writes to the standard output. -/
def print (s : Session) (t : Text) : Session :=
  { s with stdout := s.stdout ++ t }

/-- Writes to the error output. -/
def tell (s : Session) (t : Text) : Session :=
  { s with stderr := s.stderr ++ t }

/-- Writes a line to the error output. -/
def tellLine (s : Session) (t : Text) : Session :=
  s.tell (t ++ ['\n'])

/-- Logs a message that weighs as much as `least`, or more. -/
def log (s : Session) (least level : LogLevel) (message : Text) : Session :=
  if least.rank ≤ level.rank then s.tellLine (level.name ++ ':' :: message) else s

end Session

/-- How a run ends: with an exit code, or by a fault. -/
inductive Ending where
  | exit (code : Nat)
  | fault (f : Fault)

/-- How a run ends, and what it leaves behind. -/
structure Outcome where
  ending : Ending
  session : Session

/-- The exit code of a run in which all went well. -/
def exitOk : Nat := 0

/-- The exit code of a run in which a colour failed. -/
def exitColorErrors : Nat := 1

/-- The exit code of a run that could not be done. -/
def exitRefused : Nat := 2

end CssColor
