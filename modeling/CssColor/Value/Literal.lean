import CssColor.Number.Shortest
import CssColor.Value.Basic

/-!
# Values in messages

- `Value.literal`: a value as messages show it, texts between quotes.
- `Value.plain`: the same, but a text and a day as they are.
- `Value.check`, `Value.checkPlain`: refuse a value that cannot be shown, for a
  number that is too long or for values inside one another too often.
-/

namespace CssColor

/-- A number with at least `width` digits. -/
def paddedNat (width n : Nat) : Text :=
  let digits := natText n
  List.replicate (width - digits.length) '0' ++ digits

/-- A byte inside a literal whose quote is `mark`. -/
def quoteByte (mark : Char) (b : UInt8) : Text :=
  let c := Char.ofNat b.toNat
  if c = mark || c = '\\' then ['\\', c]
  else if c = '\n' then ['\\', 'n']
  else if c = '\r' then ['\\', 'r']
  else if c = '\t' then ['\\', 't']
  else if 0x20 ≤ b.toNat ∧ b.toNat < 0x7f then [c]
  else '\\' :: 'x' :: hexDigits 2 b.toNat

/-- The literal of bytes. -/
def bytesLiteral (bs : List UInt8) : Text :=
  let mark := Text.quoteMark (bs.map fun b => Char.ofNat b.toNat)
  'b' :: mark :: (bs.flatMap (quoteByte mark) ++ [mark])

/-! ## Days and moments -/

/-- A call with its arguments. -/
def callText (name : Text) (arguments : List Text) : Text :=
  name ++ '(' :: Text.joined ", ".toList arguments ++ [')']

/-- A duration in minutes: days and the seconds above them. -/
def durationLiteral (minutes : Int) : Text :=
  let days := minutes.fdiv 1440
  let seconds := minutes.fmod 1440 * 60
  let parts :=
    (if days = 0 then [] else ["days=".toList ++ intText days])
      ++ (if seconds = 0 then [] else ["seconds=".toList ++ intText seconds])
  callText "datetime.timedelta".toList (if parts.isEmpty then ["0".toList] else parts)

/-- The literal of a day. -/
def Date.literal (d : Date) : Text :=
  callText "datetime.date".toList [natText d.year, natText d.month, natText d.day]

/-- A day as year, month and day with hyphens. -/
def Date.plain (d : Date) : Text :=
  paddedNat 4 d.year ++ '-' :: paddedNat 2 d.month ++ '-' :: paddedNat 2 d.day

/-- The literal of a moment: seconds that are zero are left out, as are their parts. -/
def Moment.literal (m : Moment) : Text :=
  let clock :=
    if m.microsecond ≠ 0 then [natText m.second, natText m.microsecond]
    else if m.second ≠ 0 then [natText m.second]
    else []
  let zone :=
    match m.offset with
    | none => []
    | some 0 => ["tzinfo=datetime.timezone.utc".toList]
    | some minutes =>
      ["tzinfo=".toList ++ callText "datetime.timezone".toList [durationLiteral minutes]]
  callText "datetime.datetime".toList
    ([natText m.date.year, natText m.date.month, natText m.date.day, natText m.hour,
      natText m.minute] ++ clock ++ zone)

/-- A moment as a day and a time of day, with its distance from universal time. -/
def Moment.plain (m : Moment) : Text :=
  m.date.plain ++ ' ' :: paddedNat 2 m.hour ++ ':' :: paddedNat 2 m.minute
    ++ ':' :: paddedNat 2 m.second
    ++ (if m.microsecond = 0 then [] else '.' :: paddedNat 6 m.microsecond)
    ++ match m.offset with
      | none => []
      | some minutes =>
        (if minutes < 0 then '-' else '+') :: paddedNat 2 (minutes.natAbs / 60)
          ++ ':' :: paddedNat 2 (minutes.natAbs % 60)

/-! ## Values -/

/-- Texts between brackets. -/
def bracketed (left right : Char) (parts : List Text) : Text :=
  left :: (Text.joined ", ".toList parts ++ [right])

/-- What stands for a collection inside itself. -/
def Collection.ellipsis : Collection → Text
  | list => "[...]".toList
  | set => "set(...)".toList
  | mapping => "\x7b...\x7d".toList

namespace Value

/-- What stands for a value inside itself. -/
def ellipsis : Value → Text
  | set _ => Collection.set.ellipsis
  | mapping _ => Collection.mapping.ellipsis
  | _ => Collection.list.ellipsis

mutual

/-- A value as messages show it; `around` are the names of the collections around it, which are not
shown again. -/
def literalIn (around : List Nat) : Value → Text
  | null => "None".toList
  | bool true => "True".toList
  | bool false => "False".toList
  | int n => intText n
  | float x => floatText x
  | text t => t.quote
  | codeText t => t.quote
  | bytes bs => bytesLiteral bs
  | date d => d.literal
  | moment m => m.literal
  | pair a b => bracketed '(' ')' [literalIn around a, literalIn around b]
  | list items => bracketed '[' ']' (literals around items)
  | set [] => "set()".toList
  | set (item :: items) =>
    bracketed '\x7b' '\x7d' (literalIn around item :: literals around items)
  | mapping entries => bracketed '\x7b' '\x7d' (entryLiterals around entries)
  | named name v => if around.contains name then v.ellipsis else literalIn (name :: around) v
  | mention _ collection => collection.ellipsis

/-- The literals of the items of a list. -/
def literals (around : List Nat) : List Value → List Text
  | [] => []
  | item :: rest => literalIn around item :: literals around rest

/-- The literals of the entries of a mapping. -/
def entryLiterals (around : List Nat) : List (Value × Value) → List Text
  | [] => []
  | (key, value) :: rest =>
    (literalIn around key ++ ": ".toList ++ literalIn around value) :: entryLiterals around rest

end

/-- A value as messages show it. -/
def literal (v : Value) : Text :=
  v.literalIn []

/-! ## Limits -/

end Value

/-- Why a value cannot be shown. -/
inductive ShowError where
  /-- It holds a whole number of too many digits. -/
  | long (e : LongNumber)
  /-- Values stand inside one another too often. -/
  | tooDeep
  deriving DecidableEq, Repr

/-- The message of a failed attempt to show a value. -/
def ShowError.message : ShowError → Text
  | .long e => e.message
  | .tooDeep => "maximum recursion depth exceeded while getting the repr of an object".toList

/-- How many values are shown inside a moment: its zone, and the distance of a zone that is not
universal time. -/
def Moment.innerDepth (m : Moment) : Nat :=
  match m.offset with
  | none => 0
  | some 0 => 1
  | some _ => 2

namespace Value

mutual

/-- Refuses a value that cannot be shown, where there is `room` for so many values inside one
another. The parts are taken in the order in which they are shown; `around` are the names of the
collections around the value. -/
def checkIn (around : List Nat) : Value → Nat → Except ShowError Unit
  | named name v, room =>
    if around.contains name then if room = 0 then .error .tooDeep else .ok ()
    else checkIn (name :: around) v room
  | _, 0 => .error .tooDeep
  | int n, _ + 1 => (DigitLimit.usual.check n).mapError .long
  | moment m, room + 1 => if room < m.innerDepth then .error .tooDeep else .ok ()
  | pair a b, room + 1 => do
    checkIn around a room
    checkIn around b room
  | list items, room + 1 => checkItems around items room
  | set [], _ + 1 => .ok ()
  -- the items are shown as a list that stands in the set
  | set _, 1 => .error .tooDeep
  | set items, room + 2 => checkItems around items room
  | mapping entries, room + 1 => checkEntries around entries room
  | _, _ + 1 => .ok ()

/-- Refuses items for the first that cannot be shown. -/
def checkItems (around : List Nat) : List Value → Nat → Except ShowError Unit
  | [], _ => .ok ()
  | item :: rest, room => do
    checkIn around item room
    checkItems around rest room

/-- Refuses entries for the first of which a key or a value cannot be shown. -/
def checkEntries (around : List Nat) : List (Value × Value) → Nat → Except ShowError Unit
  | [], _ => .ok ()
  | (key, value) :: rest, room => do
    checkIn around key room
    checkIn around value room
    checkEntries around rest room

end

/-- Refuses a value whose literal cannot be made. -/
def check (v : Value) (room : Nat) : Except ShowError Unit :=
  v.checkIn [] room

/-- A value as a text of its own; a half of a surrogate pair shows as the replacement
character. -/
def plain : Value → Text
  | text t => t
  | codeText t => t.shown
  | date d => d.plain
  | moment m => m.plain
  | v => v.literal

/-- Refuses a value whose text cannot be made. -/
def checkPlain (v : Value) (room : Nat) : Except ShowError Unit :=
  match v with
  | text _ => .ok ()
  | codeText _ => .ok ()
  | date _ => .ok ()
  | moment _ => .ok ()
  | v => v.check room

end Value

end CssColor
