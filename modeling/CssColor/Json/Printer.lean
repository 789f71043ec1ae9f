import CssColor.Json.Basic
import CssColor.Number.Shortest

/-!
# Written JSON

- `Json.layOut`: the text of a document, with given separators.
- `Json.check`: refuses a document that holds a whole number of too many digits.
- `Json.write`: the text of a document that is not refused.
- `Json.compact`: a document on one line, with a blank behind each comma and
  colon.
- `Json.indented`: a document with one member or item to a line, indented by
  two blanks for each level.

All are ASCII only: every other character is escaped, as two escapes if it does
not fit into one. A double that is not finite is written by its name.
-/

namespace CssColor

namespace Json

/-! ## Strings -/

/-- The escape of a number below 2^16. -/
def unitEscape (n : Nat) : Text :=
  '\\' :: 'u' :: hexDigits 4 n

/-- A character inside a string. -/
def escapeChar (c : Char) : Text :=
  if c = '"' then ['\\', '"']
  else if c = '\\' then ['\\', '\\']
  else if c = '\n' then ['\\', 'n']
  else if c = '\r' then ['\\', 'r']
  else if c = '\t' then ['\\', 't']
  else if c = '\x08' then ['\\', 'b']
  else if c = '\x0c' then ['\\', 'f']
  else if 0x20 ≤ c.toNat ∧ c.toNat < 0x7f then [c]
  else if c.toNat < 0x10000 then unitEscape c.toNat
  else
    unitEscape (0xd800 + (c.toNat - 0x10000) / 0x400)
      ++ unitEscape (0xdc00 + (c.toNat - 0x10000) % 0x400)

/-- A text as a JSON string. -/
def stringText (t : Text) : Text :=
  '"' :: (t.flatMap escapeChar ++ ['"'])

/-! ## Documents -/

/-- What separates the parts of a list or an object that is not empty: `opening` stands before
the first item, `between` between two, and `closing` after the last. -/
structure Separators where
  opening : Text
  between : Text
  closing : Text

/-- All on one line. -/
def Separators.oneLine : Separators := ⟨[], ", ".toList, []⟩

/-- One item to a line, two blanks deeper than the brackets around them. -/
def Separators.lines (depth : Nat) : Separators :=
  let inner := '\n' :: List.replicate (2 * (depth + 1)) ' '
  ⟨inner, ',' :: inner, '\n' :: List.replicate (2 * depth) ' '⟩

/-- Written parts between brackets; no parts leave the brackets alone. -/
def Separators.enclose (s : Separators) (left right : Char) (parts : List Text) : Text :=
  if parts.isEmpty then [left, right]
  else left :: (s.opening ++ Text.joined s.between parts ++ s.closing ++ [right])

mutual

/-- A document at a depth, with the separators that depths call for. -/
def layOut (separators : Nat → Separators) (depth : Nat) : Json → Text
  | null => "null".toList
  | bool true => "true".toList
  | bool false => "false".toList
  | int n => intText n
  | float x => namedLayout.text (Binary64.ofFloat x)
  | string t => stringText t
  | array items => (separators depth).enclose '[' ']' (layOutItems separators (depth + 1) items)
  | object members =>
    (separators depth).enclose '\x7b' '\x7d' (layOutMembers separators (depth + 1) members)

/-- The items of a list. -/
def layOutItems (separators : Nat → Separators) (depth : Nat) : List Json → List Text
  | [] => []
  | item :: rest => layOut separators depth item :: layOutItems separators depth rest

/-- The members of an object, each with its name. -/
def layOutMembers (separators : Nat → Separators) (depth : Nat) : List (Text × Json) → List Text
  | [] => []
  | (name, value) :: rest =>
    (stringText name ++ ": ".toList ++ layOut separators depth value)
      :: layOutMembers separators depth rest

end

/-! ## Limits -/

section Limits

variable (limit : DigitLimit)

mutual

/-- Refuses a document that holds a whole number of more digits than the limit. -/
def check : Json → Except LongNumber Unit
  | int n => limit.check n
  | array items => checkItems items
  | object members => checkMembers members
  | _ => .ok ()

/-- Refuses items for the first that is refused. -/
def checkItems : List Json → Except LongNumber Unit
  | [] => .ok ()
  | item :: rest => do
    check item
    checkItems rest

/-- Refuses members for the first whose value is refused. -/
def checkMembers : List (Text × Json) → Except LongNumber Unit
  | [] => .ok ()
  | (_, value) :: rest => do
    check value
    checkMembers rest

end

/-- The text of a document with the separators that depths call for, under a limit on digits. -/
def write (separators : Nat → Separators) (j : Json) : Except LongNumber Text :=
  (j.check limit).map fun _ => j.layOut separators 0

/-- A document on one line. -/
def compact (j : Json) : Except LongNumber Text :=
  j.write limit fun _ => .oneLine

/-- A document with an item to a line. -/
def indented (j : Json) : Except LongNumber Text :=
  j.write limit .lines

end Limits

end Json

end CssColor
