import CssColor.CommandLine.Switch

/-!
# Words of a command line

- `Word`: what an argument is before its meaning is settled: a plain text, a
  switch, a text that looks like a switch but is none, or the mark after which
  all is plain.
- `Word.read`: the words of a command line.
- `Cluster`: the switches that one argument holds.

A long name may be cut as long as it stays the start of one name only, and its
value may follow an equals sign. Short names may follow each other in one
argument, of which the last may have its value right behind it; an equals sign
behind the first of them counts for nothing.
-/

namespace CssColor

/-- A switch as it was written, and what stands behind it in its argument. -/
structure WrittenSwitch where
  switch : Switch
  short : Bool
  attached : Option Text
  deriving DecidableEq, Repr

/-- What an argument is. -/
inductive Word where
  | plain (t : Text)
  | separator
  | switch (w : WrittenSwitch)
  | unknown (t : Text)
  deriving DecidableEq, Repr

/-- The mark after which all is plain. -/
def separatorText : Text := ['-', '-']

namespace Word

/-- A text before its first equals sign and, if there is one, behind it. -/
def splitEquals : Text → Text × Option Text
  | [] => ([], none)
  | '=' :: rest => ([], some rest)
  | c :: rest =>
    let (before, after) := splitEquals rest
    (c :: before, after)

/-- Whether a text is made of decimal digits, with a point before the last of them at most. -/
def isDigitsWithPoint (t : Text) : Bool :=
  match t.dropWhile isDecimalDigit with
  | [] => !t.isEmpty
  | '.' :: rest => !rest.isEmpty && rest.all isDecimalDigit
  | _ => false

/-- Whether a text reads like a negative number; a line feed may end it. -/
def looksNegative : Text → Bool
  | '-' :: rest =>
    isDigitsWithPoint (if rest.getLast? = some '\n' then rest.dropLast else rest)
  | _ => false

/-- An argument that names no switch: it is plain if it reads like a negative number or holds a
space. -/
def unnamed (t : Text) : Word :=
  if looksNegative t || t.contains ' ' then plain t else unknown t

/-- Whether a name is written with one hyphen. -/
def isShort : Text → Bool
  | '-' :: '-' :: _ => false
  | _ => true

/-- A switch under a long name that may be cut. -/
def long (t name : Text) (value : Option Text) : Except UsageError Word :=
  match Switch.startingWith name with
  | [] => .ok (unnamed t)
  | [(_, s)] => .ok (switch ⟨s, false, value⟩)
  | several => .error (.ambiguous t (several.map Prod.fst))

/-- A switch under a short name, with what is right behind it. -/
def short (t : Text) (letter : Char) (behind : Text) : Word :=
  match Switch.ofName? ['-', letter] with
  | some s => switch ⟨s, true, some behind⟩
  | none => unnamed t

/-- What an argument is, if no mark went before it. -/
def ofArgument (t : Text) : Except UsageError Word :=
  match t with
  | '-' :: c :: rest =>
    match Switch.ofName? t with
    | some s => .ok (switch ⟨s, isShort t, none⟩)
    | none =>
      let (name, value) := splitEquals t
      match value, Switch.ofName? name with
      | some v, some s => .ok (switch ⟨s, isShort name, some v⟩)
      | _, _ => if c = '-' then long t name value else .ok (short t c rest)
  | _ => .ok (plain t)

/-- The words of a command line. -/
def read : List Text → Except UsageError (List Word)
  | [] => .ok []
  | t :: rest =>
    if t = separatorText then .ok (separator :: rest.map plain)
    else
      match ofArgument t with
      | .error e => .error e
      | .ok w => (read rest).map (w :: ·)

end Word

/-! ## Clusters -/

/-- How an argument with switches ends. -/
inductive ClusterEnd where
  /-- With a switch that has no value. -/
  | complete
  /-- With a switch and its value. -/
  | valued (s : Switch) (value : Text)
  /-- With a switch whose value must be the next argument. -/
  | awaiting (s : Switch)
  deriving DecidableEq, Repr

/-- The switches of one argument: those without a value, and the end. -/
structure Cluster where
  plain : List Switch
  ending : ClusterEnd
  deriving DecidableEq, Repr

namespace Cluster

/-- A switch before the others. -/
def cons (s : Switch) (c : Cluster) : Cluster :=
  { c with plain := s :: c.plain }

/-- A switch on its own. -/
def single (s : Switch) : Cluster :=
  if s.takesValue then ⟨[], .awaiting s⟩ else ⟨[s], .complete⟩

/-- A short switch and the letters right behind it, which are its value if one belongs to it,
and otherwise begin with the letter of another switch. -/
def letters (s : Switch) : Text → Except UsageError Cluster
  | [] => if s.takesValue then .ok ⟨[], .valued s []⟩ else .error (.switch s (.valueUnwanted []))
  | c :: rest =>
    if s.takesValue then .ok ⟨[], .valued s (c :: rest)⟩
    else match Switch.ofName? ['-', c] with
      | none => .error (.switch s (.valueUnwanted (c :: rest)))
      | some next =>
        if rest.isEmpty then .ok ((single next).cons s) else (letters next rest).map (cons s)

/-- The switches that a written switch stands for. -/
def ofWritten (w : WrittenSwitch) : Except UsageError Cluster :=
  match w.attached with
  | none => .ok (single w.switch)
  | some t =>
    if w.switch.takesValue then .ok ⟨[], .valued w.switch t⟩
    else if w.short then letters w.switch t
    else .error (.switch w.switch (.valueUnwanted t))

end Cluster

end CssColor
