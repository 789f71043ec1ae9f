import CssColor.Text.Blank
import CssColor.Text.Digit
import CssColor.Text.Quoted

/-!
# Whole numbers in text

- `natText`, `intText`: a number in decimal digits.
- `Text.integer`: reads a whole number. Blanks may stand around it, a sign in
  front, digits may be of any script, and single underscores may stand between
  digits.
- `Text.trimNumber`: a text without the blanks that may stand around a number.
- `IntegerError`: why a text is no whole number.
- `DigitLimit`: how many digits a number may have that is turned into text.
-/

namespace CssColor

/-- A natural number in decimal. -/
def natText (n : Nat) : Text :=
  Nat.toDigits 10 n

/-- A whole number in decimal, negative ones with a hyphen in front. -/
def intText : Int → Text
  | .ofNat n => natText n
  | .negSucc n => '-' :: natText (n + 1)

/-- Why a text is no whole number. -/
inductive IntegerError where
  /-- The text is not of the form of a whole number. -/
  | malformed (t : Text)
  /-- The number has more digits than are read. -/
  | tooLong (digits : Nat)
  deriving DecidableEq, Repr

/-- A number of more digits than this is not read. -/
def maxIntegerDigits : Nat := 4300

/-- The message of an integer error; of a long malformed text its literal is cut. -/
def IntegerError.message : IntegerError → Text
  | .malformed t => "invalid literal for int() with base 10: ".toList ++ t.quote.take 200
  | .tooLong digits =>
    "Exceeds the limit (".toList ++ natText maxIntegerDigits
      ++ " digits) for integer string conversion: value has ".toList ++ natText digits
      ++ " digits; use sys.set_int_max_str_digits() to increase the limit".toList

/-- How many digits a whole number may have that is turned into text, or is read from the text of a
document: no more than `most?`, or any number of them. A limit is set, and lifted, from outside of
the program. -/
structure DigitLimit where
  most? : Option Nat

/-- A whole number has more digits than a limit. -/
structure LongNumber where
  most : Nat
  deriving DecidableEq, Repr

/-- The message about a number that is too long to be shown. -/
def LongNumber.message (e : LongNumber) : Text :=
  "Exceeds the limit (".toList ++ natText e.most
    ++ " digits) for integer string conversion; ".toList
    ++ "use sys.set_int_max_str_digits() to increase the limit".toList

namespace DigitLimit

/-- The usual limit. -/
def usual : DigitLimit := ⟨some maxIntegerDigits⟩

/-- No limit. -/
def unlimited : DigitLimit := ⟨none⟩

/-- Refuses a whole number that has more digits than a limit. -/
def check (limit : DigitLimit) (n : Int) : Except LongNumber Unit :=
  match limit.most? with
  | none => .ok ()
  | some most => if n.natAbs < Nat.pow 10 most then .ok () else .error ⟨most⟩

variable {limit : DigitLimit} {n : Int}

theorem check_eq_error_iff {e : LongNumber} :
    limit.check n = .error e ↔ limit.most? = some e.most ∧ Nat.pow 10 e.most ≤ n.natAbs := by
  rw [check]
  cases limit.most? with
  | none => exact iff_of_false nofun fun h => nomatch h.1
  | some most =>
    dsimp only
    split
    · rename_i hshort
      refine iff_of_false nofun ?_
      rintro ⟨hmost, hlong⟩
      cases hmost
      exact absurd hshort (Nat.not_lt.mpr hlong)
    · rename_i hlong
      constructor
      · intro h
        cases h
        exact ⟨rfl, Nat.not_lt.mp hlong⟩
      · rintro ⟨hmost, -⟩
        cases hmost
        rfl

theorem check_eq_ok (h : ∀ most, limit.most? = some most → n.natAbs < Nat.pow 10 most) :
    limit.check n = .ok () := by
  cases hcheck : limit.check n with
  | ok _ => rfl
  | error e =>
    obtain ⟨hmost, hlong⟩ := check_eq_error_iff.mp hcheck
    exact absurd (h e.most hmost) (Nat.not_lt.mpr hlong)

end DigitLimit

namespace Text

/-- The blanks that may stand around a number: the information separators are none of them. -/
def isNumberBlank (c : Char) : Bool :=
  isBlank c && !(28 ≤ c.toNat && c.toNat ≤ 31)

/-- The text without the blanks that may stand around a number. -/
def trimNumber (t : Text) : Text :=
  ((t.dropWhile isNumberBlank).reverse.dropWhile isNumberBlank).reverse

/-- Whether a character belongs to a run of digits. -/
def isRunChar (c : Char) : Bool :=
  isDecimalDigit c || c == '_'

/-- The digit values of a run of digits with single underscores between them. -/
def digitRun? : Text → Option (List Nat)
  | [] => none
  | [c] => (digitValue? c).map ([·])
  | c :: '_' :: rest =>
    match digitValue? c, digitRun? rest with
    | some d, some ds => some (d :: ds)
    | _, _ => none
  | c :: rest =>
    match digitValue? c, digitRun? rest with
    | some d, some ds => some (d :: ds)
    | _, _ => none

/-- The number that digit values denote, the first being the most significant. -/
def ofDigitValues (digits : List Nat) : Nat :=
  digits.foldl (fun n d => 10 * n + d) 0

/-- A text's sign and what follows it; no sign counts as a plus. -/
def splitSign : Text → Bool × Text
  | '-' :: rest => (true, rest)
  | '+' :: rest => (false, rest)
  | t => (false, t)

/-- Reads a whole number. A run of too many digits is refused for its length whatever follows. -/
def integer (t : Text) : Except IntegerError Int :=
  let (negative, body) := t.trimNumber.splitSign
  match digitRun? (body.takeWhile isRunChar) with
  | none => .error (.malformed t)
  | some digits =>
    if digits.length > maxIntegerDigits then .error (.tooLong digits.length)
    else if body.dropWhile isRunChar ≠ [] then .error (.malformed t)
    else .ok (if negative then -(ofDigitValues digits : Int) else ofDigitValues digits)

end Text

end CssColor
