import CssColor.Fault

/-!
# Files

- `Entry`, `Location`, `Disk`: what stands where, seen from the working
  directory.
- `Disk.locate`: the place that a name leads to, one part after the other.
- `Disk.read`, `Disk.overwrite`: the bytes under a name, and new bytes for it.
- `FileError`: why a name cannot be read or written.
-/

namespace CssColor

/-- What stands at a place. -/
inductive Entry where
  | file (bytes : List UInt8)
  | directory
  deriving DecidableEq, Repr

/-- A place: the names that lead to it from the working directory. It may begin with two dots,
once for each level above that directory, or with a slash, which stands for the root. -/
abbrev Location := List Text

/-- What can be read and written: the entries by their places, and the names whose reading or
writing fails for a reason of its own. A hyphen among them is the standard input. -/
structure Disk where
  entries : List (Location × Entry) := []
  unreadable : List (Text × Text) := []
  unwritable : List (Text × Text) := []
  deriving DecidableEq, Repr

/-- Why a name cannot be read or written. -/
inductive FileError where
  | notFound
  | notADirectory
  | isADirectory
  | nameTooLong
  | other (reason : Text)
  deriving DecidableEq, Repr

/-- The message of an error about a name. -/
def FileError.message (name : Text) : FileError → Text
  | .notFound => numbered "2".toList "No such file or directory".toList
  | .notADirectory => numbered "20".toList "Not a directory".toList
  | .isADirectory => numbered "21".toList "Is a directory".toList
  | .nameTooLong => numbered "36".toList "File name too long".toList
  | .other reason => reason
where
  /-- A reason with its number and the name. -/
  numbered (number reason : Text) : Text :=
    "[Errno ".toList ++ number ++ "] ".toList ++ reason ++ ": ".toList ++ name.quote

namespace Location

/-- The part of a name that stands for the directory above. -/
def above : Text := "..".toList

/-- The part of a place that stands for the root. -/
def root : Text := ['/']

/-- The place above another one. -/
def parent (here : Location) : Location :=
  match here.getLast? with
  | none => [above]
  | some name =>
    if name = above then here ++ [above]
    else if name = root then here
    else here.dropLast

/-- The parts of a name between slashes. -/
def parts : Text → List Text
  | [] => [[]]
  | c :: rest =>
    match parts rest with
    | [] => [[c]]
    | part :: more => if c = '/' then [] :: part :: more else (c :: part) :: more

/-- The place where a name starts, and its parts from there. -/
def start (name : Text) : Location × List Text :=
  match name with
  | '/' :: rest => ([root], parts rest)
  | _ => ([], parts name)

/-- The place that a name leads to if every part of it but the last is a directory. -/
def ofName (name : Text) : Location :=
  let (here, rest) := start name
  rest.foldl (fun here part =>
    if part = [] ∨ part = ['.'] then here
    else if part = above then parent here
    else here ++ [part]) here

end Location

namespace Disk

/-- No part of a name is longer than this, in bytes. -/
def longestPart : Nat := 255

/-- No name is longer than this, in bytes. -/
def longestName : Nat := 4095

/-- Whether a place is a directory whatever the entries are. -/
def isFixed (here : Location) : Bool :=
  here.all fun part => part = Location.above || part = Location.root

/-- What stands at a place; what an entry stands in is a directory. -/
def find? (d : Disk) (here : Location) : Option Entry :=
  if isFixed here then some .directory
  else match d.entries.lookup here with
    | some entry => some entry
    | none => if d.entries.any fun (place, _) => here.isPrefixOf place then some .directory else none

/-- The place that the parts of a name lead to from another place. -/
def walk (d : Disk) (here : Location) : List Text → Except FileError Location
  | [] => .ok here
  | part :: rest =>
    match d.find? here with
    | none => .error .notFound
    | some (.file _) => .error .notADirectory
    | some .directory =>
      if part = [] ∨ part = ['.'] then d.walk here rest
      else if part = Location.above then d.walk here.parent rest
      else if longestPart < part.utf8.length then .error .nameTooLong
      else if (d.find? (here ++ [part])).isNone then .error .notFound
      else d.walk (here ++ [part]) rest

/-- The place that a name leads to. -/
def locate (d : Disk) (name : Text) : Except FileError Location :=
  if name = [] then .error .notFound
  else if longestName < name.utf8.length then .error .nameTooLong
  else
    let (here, rest) := Location.start name
    d.walk here rest

/-- The place and the bytes of the file that a name leads to. -/
def file (d : Disk) (name : Text) : Except FileError (Location × List UInt8) :=
  match d.locate name with
  | .error e => .error e
  | .ok here =>
    match d.find? here with
    | some (.file bytes) => .ok (here, bytes)
    | some .directory => .error .isADirectory
    | none => .error .notFound

/-- The bytes of the file that a name leads to. -/
def read (d : Disk) (name : Text) : Except FileError (List UInt8) :=
  match d.unreadable.lookup name with
  | some reason => .error (.other reason)
  | none => (d.file name).map Prod.snd

/-- The text of the file that a name leads to. -/
def readText (d : Disk) (name : Text) : Except (Failure FileError) Text :=
  if name.contains '\x00' then .error (.fault .nullInName)
  else match d.read name with
    | .error e => .error (.told e)
    | .ok bytes =>
      match decodeUtf8 bytes with
      | .error e => .error (.fault (.bytes e))
      | .ok t => .ok t

/-- The entries with new bytes at a place. -/
def replaceAt (here : Location) (bytes : List UInt8) :
    List (Location × Entry) → List (Location × Entry)
  | [] => []
  | (place, entry) :: rest =>
    if place = here then (place, .file bytes) :: rest
    else (place, entry) :: replaceAt here bytes rest

/-- The places of the entries stay when one of them gets new bytes. -/
theorem map_fst_replaceAt (here : Location) (bytes : List UInt8)
    (entries : List (Location × Entry)) :
    (replaceAt here bytes entries).map Prod.fst = entries.map Prod.fst := by
  induction entries with
  | nil => rfl
  | cons first rest ih =>
    obtain ⟨place, entry⟩ := first
    by_cases h : place = here <;> simp [replaceAt, h, ih]

/-- The disk with new bytes in the file that a name leads to. -/
def overwrite (d : Disk) (name : Text) (bytes : List UInt8) : Except FileError Disk :=
  match d.unwritable.lookup name with
  | some reason => .error (.other reason)
  | none =>
    match d.file name with
    | .error e => .error e
    | .ok (here, _) => .ok { d with entries := replaceAt here bytes d.entries }

end Disk

end CssColor
