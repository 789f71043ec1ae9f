/-!
# Text

Text is a list of characters, so that every offset counts characters and every
function on it is a recursion on the list.

- `Text`: the type of all scanned, converted and written text.
- `Text.slice`: the characters from one offset up to another, both limited to
  the length of the text.
- `Text.joined`: a list of texts with a separator between neighbours.
- `firstItems`: the first items of a list, counted from either end.
- `isCssBlank`, `isNameChar`, `isWordChar`, …: the ASCII classes that
  stylesheets are scanned with.
- `Text.lowercase`: small letters for the letters that colour names, function
  names and keywords are written with.
-/

namespace CssColor

/-- A text is the list of its characters. -/
abbrev Text := List Char

namespace Text

/-- The characters from offset `start` up to offset `stop`; offsets past the end mean the end. -/
def slice (t : Text) (start stop : Nat) : Text :=
  (t.take stop).drop start

/-- The texts in order, with `separator` between each two. -/
def joined (separator : Text) : List Text → Text
  | [] => []
  | [t] => t
  | t :: u :: rest => t ++ separator ++ joined separator (u :: rest)

/-- What follows `head` in `t`, if `t` starts with it. -/
def dropHead? : Text → Text → Option Text
  | [], t => some t
  | _ :: _, [] => none
  | h :: head, c :: t => if h = c then dropHead? head t else none

end Text

/-- The first `count` items; a negative count leaves out as many at the end. -/
def firstItems {α : Type} (items : List α) (count : Int) : List α :=
  if count < 0 then items.take (items.length - (-count).toNat) else items.take count.toNat

/-! ## ASCII classes -/

/-- The blanks of a stylesheet: tab, line feed, vertical tab, form feed, carriage return, space. -/
def isCssBlank (c : Char) : Bool :=
  c == ' ' || (9 ≤ c.toNat && c.toNat ≤ 13)

/-- A digit `0` to `9`. -/
def isAsciiDigit (c : Char) : Bool :=
  '0' ≤ c && c ≤ '9'

/-- A letter of either case without accents. -/
def isAsciiLetter (c : Char) : Bool :=
  ('a' ≤ c && c ≤ 'z') || ('A' ≤ c && c ≤ 'Z')

/-- A hexadecimal digit of either case. -/
def isHexDigit (c : Char) : Bool :=
  isAsciiDigit c || ('a' ≤ c && c ≤ 'f') || ('A' ≤ c && c ≤ 'F')

/-- The value of a hexadecimal digit of either case. -/
def hexValue? (c : Char) : Option Nat :=
  if '0' ≤ c ∧ c ≤ '9' then some (c.toNat - 48)
  else if 'a' ≤ c ∧ c ≤ 'f' then some (c.toNat - 87)
  else if 'A' ≤ c ∧ c ≤ 'F' then some (c.toNat - 55)
  else none

/-- A letter, a digit or the underscore. -/
def isWordChar (c : Char) : Bool :=
  isAsciiLetter c || isAsciiDigit c || c == '_'

/-- What may stand in a custom property's name: a word character or a hyphen. -/
def isNameChar (c : Char) : Bool :=
  isWordChar c || c == '-'

/-- What may stand in a property's name: a letter or a hyphen. -/
def isPropertyChar (c : Char) : Bool :=
  isAsciiLetter c || c == '-'

/-! ## Letter case -/

/-- The small letter of a capital; the Kelvin sign is a capital `k`. -/
def lowercaseChar (c : Char) : Char :=
  if c = '\u212a' then 'k' else c.toLower

/-- Every letter made small. -/
def Text.lowercase (t : Text) : Text :=
  t.map lowercaseChar

end CssColor
