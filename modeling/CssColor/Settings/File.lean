import CssColor.Settings.Resolution
import CssColor.Yaml.Document

/-!
# Settings from a file

- `Settings.load`: the settings of a named file, or else of the usual one if it
  is there.
- `shownPath`: a file's name without parts that lead nowhere.
- `Text.unifyLineEnds`: a text whose lines all end alike.
-/

namespace CssColor

/-- The text with a line feed for each carriage return and for each pair of the two. -/
def Text.unifyLineEnds : Text → Text
  | [] => []
  | '\r' :: '\n' :: rest => '\n' :: unifyLineEnds rest
  | '\r' :: rest => '\n' :: unifyLineEnds rest
  | c :: rest => c :: unifyLineEnds rest

/-- How many slashes a name keeps in front: two if there are just two, else one. -/
def keptRoot : Text → Text
  | '/' :: '/' :: '/' :: _ => ['/']
  | '/' :: '/' :: _ => ['/', '/']
  | '/' :: _ => ['/']
  | _ => []

/-- A file's name without empty parts and parts that stand for the same directory. -/
def shownPath (name : Text) : Text :=
  let kept := (Location.parts name).filter fun part => part ≠ [] ∧ part ≠ ['.']
  let shown := keptRoot name ++ Text.joined ['/'] kept
  if shown = [] then ['.'] else shown

namespace Settings

/-- The name of the file that is read if none is named. -/
def usualFile : Text := ".recolor.yaml".toList

/-- The settings of the file with the given name. -/
def readFile (depths : Depths) (name : Text) (d : Disk) : Except (Failure SettingsError) Settings :=
  match d.readText name with
  | .error (.fault f) => .error (.fault f)
  | .error (.told e) => .error (.told (.unreadable name e))
  | .ok t =>
    match Yaml.read depths t.unifyLineEnds with
    | .error .malformed => .error (.told (.malformed name))
    | .error (.scalar e) => .error (.fault (.scalar e))
    | .ok v => ofValue depths v

/-- The name of the file that holds the settings, if one is to be read. -/
def source? (path : Option Text) (d : Disk) : Option Text :=
  match path with
  | some name => some (shownPath name)
  | none =>
    match d.find? [usualFile] with
    | some (.file _) => some usualFile
    | _ => none

/-- The settings, with the name of the file that they were read from; without a file they are the
defaults. -/
def load (depths : Depths) (path : Option Text) (d : Disk) :
    Except (Failure SettingsError) (Settings × Option Text) :=
  match source? path d with
  | none => .ok ({}, none)
  | some name => (readFile depths name d).map fun s => (s, some name)

end Settings

end CssColor
