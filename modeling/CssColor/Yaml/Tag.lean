import CssColor.Text.CodePoint

/-!
# Kinds of YAML nodes

- `Tag`: what kind of value a node stands for.
- `Tag.ofUri`: the kind that a written tag names.
- `Tag.ofPlain`: the kind that a scalar without quotes and tag has by its form.
-/

namespace CssColor

namespace Yaml

/-- The kinds of nodes. -/
inductive Tag where
  | null
  | bool
  | int
  | float
  | binary
  | timestamp
  | omap
  | pairs
  | set
  | str
  | seq
  | map
  /-- The key whose value is taken into a mapping. -/
  | merge
  /-- The key of a mapping's own value. -/
  | value
  /-- A kind that no value has. -/
  | unknown
  deriving DecidableEq, Repr

namespace Tag

/-- How the tags of the common kinds begin. -/
def commonStart : Text := "tag:yaml.org,2002:".toList

/-- The common kinds and their names. -/
def common : List (Text × Tag) :=
  [("null".toList, null), ("bool".toList, bool), ("int".toList, int), ("float".toList, float),
   ("binary".toList, binary), ("timestamp".toList, timestamp), ("omap".toList, omap),
   ("pairs".toList, pairs), ("set".toList, set), ("str".toList, str), ("seq".toList, seq),
   ("map".toList, map), ("merge".toList, merge), ("value".toList, value)]

/-- The kind that a tag names. -/
def ofUri (t : Text) : Tag :=
  match Text.dropHead? commonStart t with
  | some name => (common.lookup name).getD unknown
  | none => unknown

/-! ## Forms of plain scalars -/

/-- The text without its sign. -/
def unsigned : Text → Text
  | '-' :: t => t
  | '+' :: t => t
  | t => t

/-- A digit or an underscore. -/
def isSpacedDigit (c : Char) : Bool :=
  isAsciiDigit c || c == '_'

/-- Whether a text is not empty and all its characters are of a class. -/
def isRun (p : Char → Bool) (t : Text) : Bool :=
  !t.isEmpty && t.all p

/-- Whether a text is made of parts of sixty: one or more colons, each with one or two digits up to
59 behind it. -/
def isSixtieths : Text → Bool
  | [':', d] => isAsciiDigit d
  | [':', c, d] => '0' ≤ c && c ≤ '5' && isAsciiDigit d
  | ':' :: d :: ':' :: t => isAsciiDigit d && isSixtieths (':' :: t)
  | ':' :: c :: d :: ':' :: t => '0' ≤ c && c ≤ '5' && isAsciiDigit d && isSixtieths (':' :: t)
  | _ => false

/-- A whole number: binary, octal, decimal, hexadecimal, or in parts of sixty. -/
def isInt (t : Text) : Bool :=
  match unsigned t with
  | ['0'] => true
  | '0' :: 'b' :: t => isRun (fun c => c == '0' || c == '1' || c == '_') t
  | '0' :: 'x' :: t => isRun (fun c => isHexDigit c || c == '_') t
  | '0' :: t => isRun (fun c => ('0' ≤ c && c ≤ '7') || c == '_') t
  | c :: t =>
    let rest := t.dropWhile isSpacedDigit
    '1' ≤ c && c ≤ '9' && (rest.isEmpty || isSixtieths rest)
  | [] => false

/-- The exponent of a number, with its sign, or none. -/
def isPower : Text → Bool
  | [] => true
  | e :: s :: t => (e == 'e' || e == 'E') && (s == '-' || s == '+') && isRun isAsciiDigit t
  | _ => false

/-- The part of a number from its point on, which may have an exponent. -/
def isFraction : Text → Bool
  | '.' :: t => isPower (t.dropWhile isSpacedDigit)
  | _ => false

/-- The part of a number in sixtieths from its first colon on, up to its point and fraction. -/
def isPointedSixtieths (t : Text) : Bool :=
  let whole := t.takeWhile (· != '.')
  match t.dropWhile (· != '.') with
  | '.' :: fraction => isSixtieths whole && fraction.all isSpacedDigit
  | _ => false

/-- A number with a point, infinity, or what is no number. -/
def isFloat (t : Text) : Bool :=
  let infinities := [".inf".toList, ".Inf".toList, ".INF".toList]
  let undefineds := [".nan".toList, ".NaN".toList, ".NAN".toList]
  if undefineds.contains t || infinities.contains (unsigned t) then true
  else
    match t with
    | '.' :: d :: t => isAsciiDigit d && isPower (t.dropWhile isSpacedDigit)
    | _ =>
      match unsigned t with
      | d :: t =>
        let rest := t.dropWhile isSpacedDigit
        isAsciiDigit d && (isFraction rest || isPointedSixtieths rest)
      | [] => false

/-- A truth value, its letters all small, all capital, or the first one capital. -/
def isBool (t : Text) : Bool :=
  ["yes".toList, "Yes".toList, "YES".toList, "no".toList, "No".toList, "NO".toList,
   "true".toList, "True".toList, "TRUE".toList, "false".toList, "False".toList, "FALSE".toList,
   "on".toList, "On".toList, "ON".toList, "off".toList, "Off".toList, "OFF".toList].contains t

/-- A word or sign for nothing. -/
def isNull (t : Text) : Bool :=
  ["~".toList, "null".toList, "Null".toList, "NULL".toList].contains t

/-- A sign that begins something else where it stands without quotes. -/
def isReserved (t : Text) : Bool :=
  [['!'], ['&'], ['*']].contains t

/-- The text without a line feed at its end, which no form counts. -/
def withoutLastBreak (t : Text) : Text :=
  if t.getLast? = some '\n' then t.dropLast else t

end Tag

/-- A day and perhaps a time as they are written: the digits of each part. -/
structure WrittenMoment where
  year : Text
  month : Text
  day : Text
  clock : Option (Text × Text × Text × Text)
  zone : Option (Option (Bool × Text × Text))

namespace WrittenMoment

/-- Digits at the start of a text, at least `least` and at most `most`. -/
def digits? (least most : Nat) (t : Text) : Option (Text × Text) :=
  let ds := (t.take most).takeWhile isAsciiDigit
  if least ≤ ds.length then some (ds, t.drop ds.length) else none

/-- What follows a sign at the start of a text. -/
def sign? (c : Char) : Text → Option Text
  | x :: t => if x = c then some t else none
  | [] => none

/-- A space or a tab. -/
def isSpacing (c : Char) : Bool :=
  c == ' ' || c == '\t'

/-- The distance from universal time at the end of a time: nothing, the letter `Z`, or a sign with
hours and perhaps minutes. -/
def zone? (t : Text) : Option (Option (Option (Bool × Text × Text))) :=
  if t.isEmpty then some none
  else
    match t.dropWhile isSpacing with
    | ['Z'] => some (some none)
    | c :: rest =>
      if c = '-' ∨ c = '+' then
        (digits? 1 2 rest).bind fun (hours, rest) =>
          match rest with
          | [] => some (some (some (c == '-', hours, [])))
          | _ =>
            (sign? ':' rest).bind fun rest =>
              (digits? 2 2 rest).bind fun (minutes, rest) =>
                if rest.isEmpty then some (some (some (c == '-', hours, minutes))) else none
      else none
    | [] => none

/-- The mark between a day and a time. -/
def afterDay? : Text → Option Text
  | 'T' :: t => some t
  | 't' :: t => some t
  | c :: t => if isSpacing c then some (t.dropWhile isSpacing) else none
  | [] => none

/-- Reads a day, or a day and a time. -/
def read? (t : Text) : Option WrittenMoment := do
  let (year, t) ← digits? 4 4 t
  let (month, t) ← (sign? '-' t).bind (digits? 1 2)
  let (day, t) ← (sign? '-' t).bind (digits? 1 2)
  if t.isEmpty then return ⟨year, month, day, none, none⟩
  let (hour, t) ← (afterDay? t).bind (digits? 1 2)
  let (minute, t) ← (sign? ':' t).bind (digits? 2 2)
  let (second, t) ← (sign? ':' t).bind (digits? 2 2)
  let (fraction, t) :=
    match t with
    | '.' :: t => (t.takeWhile isAsciiDigit, t.dropWhile isAsciiDigit)
    | t => ([], t)
  let zone ← zone? t
  return ⟨year, month, day, some (hour, minute, second, fraction), zone⟩

/-- Whether a scalar in this form stands for a moment without a tag: a day alone has two digits for
month and day. -/
def isImplicit (m : WrittenMoment) : Bool :=
  m.clock.isSome || (m.month.length == 2 && m.day.length == 2)

end WrittenMoment

namespace Tag

/-- The kind of a scalar without quotes and tag whose text is not empty. -/
def ofForm (t : Text) : Tag :=
  if isBool t then .bool
  else if isFloat t then .float
  else if isInt t then .int
  else if t = "<<".toList then .merge
  else if isNull t then .null
  else if (WrittenMoment.read? t).any WrittenMoment.isImplicit then .timestamp
  else if t = "=".toList then .value
  else if isReserved t then .unknown
  else .str

/-- The kind of a scalar without quotes and tag. -/
def ofPlain (t : CodeText) : Tag :=
  match t.text? with
  | none => .str
  | some [] => .null
  | some t => ofForm (withoutLastBreak t)

end Tag

end Yaml

end CssColor
