import CssColor.Text.Case
import CssColor.Value.Literal
import CssColor.Yaml.Error
import CssColor.Yaml.Tag

/-!
# Values of YAML scalars other than numbers

- `boolScalar`: a truth value, in any letter case.
- `momentScalar`: a day, or a moment of a day.
- `binaryScalar?`: bytes in the base of 64.
-/

namespace CssColor

namespace Yaml

/-! ## Truth values -/

/-- The words for true. -/
def trueWords : List CodeText :=
  ["yes".toList.map .char, "true".toList.map .char, "on".toList.map .char]

/-- The words for false. -/
def falseWords : List CodeText :=
  ["no".toList.map .char, "false".toList.map .char, "off".toList.map .char]

/-- The truth value that a scalar denotes. -/
def boolScalar (t : CodeText) : Except ScalarError Bool :=
  let word := t.lowercase
  if trueWords.contains word then .ok true
  else if falseWords.contains word then .ok false
  else .error (.truth word)

/-! ## Days and moments -/

/-- A day of the calendar. -/
def calendarDate (year month day : Nat) : Except ScalarError Date :=
  if year = 0 then
    .error (.calendar ("year ".toList ++ natText year ++ " is out of range".toList))
  else if month < 1 ∨ 12 < month then .error (.calendar "month must be in 1..12".toList)
  else if day < 1 ∨ monthDays year month < day then
    .error (.calendar "day is out of range for month".toList)
  else .ok ⟨year, month, day⟩

/-- A distance from universal time of less than a day. -/
def zoneOffset (minutes : Int) : Except ScalarError Int :=
  if -1440 < minutes ∧ minutes < 1440 then .ok minutes
  else
    .error (.calendar
      ("offset must be a timedelta strictly between -timedelta(hours=24) and ".toList
        ++ "timedelta(hours=24), not ".toList ++ durationLiteral minutes ++ ['.']))

/-- The number of some digits; none count as zero. -/
def partNumber (t : Text) : Nat :=
  Nat.ofDigitChars 10 t 0

/-- The day or moment that is written. -/
def WrittenMoment.value (w : WrittenMoment) : Except ScalarError Value := do
  let date := calendarDate (partNumber w.year) (partNumber w.month) (partNumber w.day)
  match w.clock with
  | none => return .date (← date)
  | some (hour, minute, second, fraction) =>
    let offset ←
      match w.zone with
      | none => pure none
      | some none => pure (some 0)
      | some (some (negative, hours, minutes)) =>
        let distance : Int := 60 * partNumber hours + partNumber minutes
        some <$> zoneOffset (if negative then -distance else distance)
    let date ← date
    let hour := partNumber hour
    let minute := partNumber minute
    let second := partNumber second
    if 23 < hour then throw (.calendar "hour must be in 0..23".toList)
    if 59 < minute then throw (.calendar "minute must be in 0..59".toList)
    if 59 < second then throw (.calendar "second must be in 0..59".toList)
    let six := fraction.take 6 ++ List.replicate (6 - fraction.length) '0'
    return .moment ⟨date, hour, minute, second, partNumber six, offset⟩

/-- The day or moment that a scalar denotes. -/
def momentScalar (t : CodeText) : Except ScalarError Value :=
  match t.text?.bind fun t => WrittenMoment.read? (Tag.withoutLastBreak t) with
  | some w => w.value
  | none => .error .moment

/-! ## Bytes -/

/-- The value of a character of the base of 64. -/
def sixBits? (c : Char) : Option Nat :=
  if 'A' ≤ c ∧ c ≤ 'Z' then some (c.toNat - 65)
  else if 'a' ≤ c ∧ c ≤ 'z' then some (c.toNat - 71)
  else if '0' ≤ c ∧ c ≤ '9' then some (c.toNat + 4)
  else if c = '+' then some 62
  else if c = '/' then some 63
  else none

/-- The bytes that the rest of a text denotes. Four characters give three bytes; `place` is the
place of the next one among its four, and `held` are the bits before it that no byte has yet. Equals
signs, `fill` of them since the last character, end the text where they fill up the four. Without
them the text must end with its four; all other characters mean nothing. -/
def sixBitBytes? (place held fill : Nat) : Text → Option (List UInt8)
  | [] => if place = 0 then some [] else none
  | c :: t =>
    if c = '=' then
      if place < 2 then sixBitBytes? place held fill t
      else if 4 ≤ place + (fill + 1) then some []
      else sixBitBytes? place held (fill + 1) t
    else match sixBits? c with
      | none => sixBitBytes? place held fill t
      | some v =>
        let kept := Nat.pow 2 (6 - 2 * place)
        if place = 0 then sixBitBytes? 1 v 0 t
        else
          (sixBitBytes? ((place + 1) % 4) (v % kept) 0 t).map
            (UInt8.ofNat (held * (64 / kept) + v / kept) :: ·)

/-- The bytes that a scalar denotes, which may hold no character beyond the first 128. -/
def binaryScalar? (t : CodeText) : Option (List UInt8) :=
  t.text?.bind fun t =>
    if t.all fun c => c.toNat < 128 then sixBitBytes? 0 0 0 t else none

end Yaml

end CssColor
