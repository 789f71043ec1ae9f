import CssColor.Text.Basic

/-!
# Places in a YAML stream

- `Cursor`: what is left of a stream, and the index, line and column of its
  first character.
- `Cursor.peek`, `Cursor.skip`: looking ahead and moving on. Behind the end
  stands the character zero, which no stream holds.
- `isStreamChar`: the characters that a stream may hold.
-/

namespace CssColor

namespace Yaml

/-- Whether a stream may hold a character. -/
def isStreamChar (c : Char) : Bool :=
  let n := c.toNat
  n == 9 || n == 10 || n == 13 || (0x20 ≤ n && n ≤ 0x7e) || n == 0x85
    || (0xa0 ≤ n && n ≤ 0xd7ff) || (0xe000 ≤ n && n ≤ 0xfffd) || 0x10000 ≤ n

/-- The character that stands behind the end. -/
def endMark : Char := '\x00'

/-- The characters that end a line. -/
def isBreak (c : Char) : Bool :=
  c == '\n' || c == '\r' || c == '\u0085' || c == '\u2028' || c == '\u2029'

/-- The end of a line or of the stream. -/
def isLineStop (c : Char) : Bool :=
  c == endMark || isBreak c

/-- A space, or the end of a line or of the stream. -/
def isSpaceStop (c : Char) : Bool :=
  c == ' ' || isLineStop c

/-- A space, a tab, or the end of a line or of the stream. -/
def isBlankStop (c : Char) : Bool :=
  c == '\t' || isSpaceStop c

/-- The rest of a stream with the place of its first character. -/
structure Cursor where
  rest : Text
  index : Nat
  line : Nat
  column : Nat

namespace Cursor

/-- The start of a stream. -/
def start (t : Text) : Cursor := ⟨t, 0, 0, 0⟩

/-- The character `n` places ahead. -/
def peek (c : Cursor) (n : Nat) : Char :=
  c.rest.getD n endMark

/-- The character at the cursor. -/
def head (c : Cursor) : Char :=
  c.rest.headD endMark

/-- The next `n` characters. -/
def ahead (c : Cursor) (n : Nat) : Text :=
  c.rest.take n

/-- One character on. A byte order mark takes no column. -/
def step (c : Cursor) : Cursor :=
  match c.rest with
  | [] => c
  | x :: rest =>
    if isBreak x && !(x == '\r' && rest.head? == some '\n') then
      ⟨rest, c.index + 1, c.line + 1, 0⟩
    else ⟨rest, c.index + 1, c.line, if x == '\ufeff' then c.column else c.column + 1⟩

/-- Some characters on. -/
def skip (c : Cursor) : Nat → Cursor
  | 0 => c
  | n + 1 => c.step.skip n

/-- The characters of a class at the cursor, and the cursor behind them. -/
def span (c : Cursor) (p : Char → Bool) : Text × Cursor :=
  let t := c.rest.takeWhile p
  (t, c.skip t.length)

/-- The cursor behind the spaces. -/
def skipSpaces (c : Cursor) : Cursor :=
  (c.span (· == ' ')).2

/-- The cursor behind a comment that starts here, if one does. -/
def skipComment (c : Cursor) : Cursor :=
  if c.head == '#' then (c.span fun x => !isBreak x).2 else c

/-- The line break at the cursor as it counts in a text, and the cursor behind it: the separators
of lines and paragraphs stay, all others are line feeds. -/
def lineBreak (c : Cursor) : Text × Cursor :=
  let x := c.head
  if x == '\r' && c.peek 1 == '\n' then (['\n'], c.skip 2)
  else if x == '\r' || x == '\n' || x == '\u0085' then (['\n'], c.step)
  else if isBreak x then ([x], c.step)
  else ([], c)

/-- Whether three hyphens or three points stand here with a blank behind them. -/
def atSeparator (c : Cursor) : Bool :=
  (c.ahead 3 == "---".toList || c.ahead 3 == "...".toList) && isBlankStop (c.peek 3)

end Cursor

end Yaml

end CssColor
