import CssColor.Json.Basic
import CssColor.Number.Binary64
import CssColor.Text.Integer

/-!
# Reading JSON

- `Json.read?`: the document that a text is, with blanks allowed around every
  part. A number without point and exponent is whole; of members with one name
  the last counts.

A whole number of more digits than a limit is not read, nor the text that it stands
in. Beside the numbers with digits, the names `NaN`, `Infinity` and
`-Infinity` are read as doubles.
-/

namespace CssColor

namespace Json

/-- The blanks of JSON. -/
def isBlank (c : Char) : Bool :=
  c == ' ' || c == '\n' || c == '\r' || c == '\t'

/-- The text from its first character that is not blank. -/
def skipBlanks (t : Text) : Text :=
  t.dropWhile isBlank

/-! ## Strings -/

/-- The number that four hexadecimal digits denote. -/
def unit? (a b c d : Char) : Option Nat :=
  match hexValue? a, hexValue? b, hexValue? c, hexValue? d with
  | some a, some b, some c, some d => some (((a * 16 + b) * 16 + c) * 16 + d)
  | _, _, _, _ => none

/-- The character that an escape of one letter stands for. -/
def simpleEscape? : Char → Option Char
  | '"' => some '"'
  | '\\' => some '\\'
  | '/' => some '/'
  | 'n' => some '\n'
  | 'r' => some '\r'
  | 't' => some '\t'
  | 'b' => some '\x08'
  | 'f' => some '\x0c'
  | _ => none

/-- The character of two halves of an escaped pair. -/
def pairChar? (high low : Nat) : Option Char :=
  if 0xdc00 ≤ low ∧ low < 0xe000 then
    some (Char.ofNat (0x10000 + (high - 0xd800) * 0x400 + (low - 0xdc00)))
  else none

/-- The rest of a string after its opening quote, and what follows its closing one. -/
def stringBody? : Text → Option (Text × Text)
  | [] => none
  | '"' :: rest => some ([], rest)
  | '\\' :: 'u' :: a :: b :: c :: d :: rest =>
    match unit? a b c d with
    | none => none
    | some n =>
      if 0xd800 ≤ n ∧ n < 0xdc00 then
        match rest with
        | '\\' :: 'u' :: e :: f :: g :: h :: more =>
          match (unit? e f g h).bind (pairChar? n) with
          | none => none
          | some x => (stringBody? more).map fun (t, left) => (x :: t, left)
        | _ => none
      else if 0xdc00 ≤ n ∧ n < 0xe000 then none
      else (stringBody? rest).map fun (t, left) => (Char.ofNat n :: t, left)
  | '\\' :: c :: rest =>
    match simpleEscape? c with
    | none => none
    | some x => (stringBody? rest).map fun (t, left) => (x :: t, left)
  | c :: rest =>
    if c = '\\' ∨ c.toNat < 0x20 then none
    else (stringBody? rest).map fun (t, left) => (c :: t, left)

/-! ## Numbers -/

/-- The digits at the start of a text, and what follows them. -/
def digits (t : Text) : Text × Text :=
  (t.takeWhile isAsciiDigit, t.dropWhile isAsciiDigit)

/-- The exponent part of a number: none counts as zero, and tells that it was absent. -/
def exponent? (t : Text) : Option (Option Int × Text) :=
  let signed (negative : Bool) (t : Text) : Option (Option Int × Text) :=
    let (ds, rest) := digits t
    if ds.isEmpty then none
    else
      let n : Int := Nat.ofDigitChars 10 ds 0
      some (some (if negative then -n else n), rest)
  match t with
  | c :: '-' :: rest => if c = 'e' ∨ c = 'E' then signed true rest else some (none, t)
  | c :: '+' :: rest => if c = 'e' ∨ c = 'E' then signed false rest else some (none, t)
  | c :: rest => if c = 'e' ∨ c = 'E' then signed false rest else some (none, t)
  | [] => some (none, [])

/-- The fraction of a number after its point, if there is one. -/
def fraction? : Text → Option (Option Text × Text)
  | '.' :: rest =>
    let (ds, more) := digits rest
    if ds.isEmpty then none else some (some ds, more)
  | t => some (none, t)

section Limits

variable (limit : DigitLimit)

/-- A number without its sign, and what follows it. -/
def magnitude? (negative : Bool) (t : Text) : Option (Json × Text) :=
  let (whole, rest) := digits t
  if whole.isEmpty || (whole.head? == some '0' && 1 < whole.length) then none
  else do
    let (fraction, rest) ← fraction? rest
    let (power, rest) ← exponent? rest
    if fraction.isNone && power.isNone then
      let magnitude : Int := Nat.ofDigitChars 10 whole 0
      let n := if negative then -magnitude else magnitude
      (limit.check n).toOption
      return (int n, rest)
    let places := fraction.getD []
    let n := Nat.ofDigitChars 10 (whole ++ places) 0
    return (float (decimalFloat negative n (power.getD 0 - places.length)), rest)

/-- A number in digits or by its name, and what follows it. -/
def number? : Text → Option (Json × Text)
  | 'N' :: 'a' :: 'N' :: rest => some (float Binary64.nanFloat, rest)
  | 'I' :: 'n' :: 'f' :: 'i' :: 'n' :: 'i' :: 't' :: 'y' :: rest =>
    some (float (Binary64.infiniteFloat false), rest)
  | '-' :: 'I' :: 'n' :: 'f' :: 'i' :: 'n' :: 'i' :: 't' :: 'y' :: rest =>
    some (float (Binary64.infiniteFloat true), rest)
  | '-' :: rest => magnitude? limit true rest
  | t => magnitude? limit false t

/-! ## Documents -/

mutual

/-- A document at the start of a text that begins with no blank; every step takes one of the
`fuel`. -/
def value? : Nat → Text → Option (Json × Text)
  | 0, _ => none
  | fuel + 1, t =>
    match t with
    | 'n' :: 'u' :: 'l' :: 'l' :: rest => some (null, rest)
    | 't' :: 'r' :: 'u' :: 'e' :: rest => some (bool true, rest)
    | 'f' :: 'a' :: 'l' :: 's' :: 'e' :: rest => some (bool false, rest)
    | '"' :: rest => (stringBody? rest).map fun (s, left) => (string s, left)
    | '[' :: rest =>
      match skipBlanks rest with
      | ']' :: left => some (array [], left)
      | inner => (items? fuel inner).map fun (items, left) => (array items, left)
    | '\x7b' :: rest =>
      match skipBlanks rest with
      | '\x7d' :: left => some (object [], left)
      | inner => (members? fuel [] inner).map fun (members, left) => (object members, left)
    | _ => number? limit t

/-- The items of a list up to its closing bracket. -/
def items? : Nat → Text → Option (List Json × Text)
  | 0, _ => none
  | fuel + 1, t =>
    match value? fuel t with
    | none => none
    | some (item, rest) =>
      match skipBlanks rest with
      | ',' :: more => (items? fuel (skipBlanks more)).map fun (items, left) => (item :: items, left)
      | ']' :: left => some ([item], left)
      | _ => none

/-- The members of an object up to its closing brace, added to those before. -/
def members? : Nat → List (Text × Json) → Text → Option (List (Text × Json) × Text)
  | 0, _, _ => none
  | fuel + 1, before, t =>
    match t with
    | '"' :: rest =>
      match stringBody? rest with
      | none => none
      | some (name, rest) =>
        match skipBlanks rest with
        | ':' :: rest =>
          match value? fuel (skipBlanks rest) with
          | none => none
          | some (value, rest) =>
            let all := setMember name value before
            match skipBlanks rest with
            | ',' :: more => members? fuel all (skipBlanks more)
            | '\x7d' :: left => some (all, left)
            | _ => none
        | _ => none
    | _ => none

end

/-- The document that a text is; the fuel is more than a text of its length
needs. -/
def read? (t : Text) : Option Json :=
  match value? limit (2 * t.length + 2) (skipBlanks t) with
  | some (j, rest) => if (skipBlanks rest).isEmpty then some j else none
  | none => none

end Limits

end Json

end CssColor
