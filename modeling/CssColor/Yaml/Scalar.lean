import CssColor.Yaml.Cursor
import CssColor.Yaml.Error

/-!
# Scalars as they are written

- `quotedScalar`: a text between single or double quotes, with escapes in the
  latter.
- `plainScalar`: a text without quotes, over one or more lines.
- `blockScalar?`: a text of whole lines, kept or folded.

Each gives the text and the cursor behind it, or why there is none. The first argument of a loop
bounds its steps; no loop takes more steps than there are characters.
-/

namespace CssColor

namespace Yaml

/-! ## Quoted scalars -/

/-- Line breaks with blanks around them, inside quotes; a document separator may not stand among
them. -/
def quotedBreaks? : Nat → Cursor → Option (Text × Cursor)
  | 0, _ => none
  | fuel + 1, c =>
    if c.atSeparator then none
    else
      let c := (c.span fun x => x == ' ' || x == '\t').2
      if isBreak c.head then
        let (b, c) := c.lineBreak
        (quotedBreaks? fuel c).map fun (bs, c) => (b ++ bs, c)
      else some ([], c)

/-- The character that an escape of one letter stands for. -/
def escapedChar? : Char → Option Char
  | '0' => some '\x00'
  | 'a' => some '\x07'
  | 'b' => some '\x08'
  | 't' => some '\t'
  | '\t' => some '\t'
  | 'n' => some '\n'
  | 'v' => some '\x0b'
  | 'f' => some '\x0c'
  | 'r' => some '\r'
  | 'e' => some '\x1b'
  | ' ' => some ' '
  | '"' => some '"'
  | '\\' => some '\\'
  | '/' => some '/'
  | 'N' => some '\u0085'
  | '_' => some '\u00a0'
  | 'L' => some '\u2028'
  | 'P' => some '\u2029'
  | _ => none

/-- How many hexadecimal digits an escape takes. -/
def escapeLength? : Char → Option Nat
  | 'x' => some 2
  | 'u' => some 4
  | 'U' => some 8
  | _ => none

/-- The number that hexadecimal digits denote. -/
def hexNumber? (t : Text) : Option Nat :=
  t.foldl (fun n c => match n, hexValue? c with
    | some n, some d => some (16 * n + d)
    | _, _ => none) (some 0)

/-- The escape behind a backslash at the cursor. -/
def escape (c : Cursor) : Except YamlError (CodeText × Cursor) :=
  let x := c.peek 1
  match escapedChar? x, escapeLength? x with
  | some y, _ => .ok ([.char y], c.skip 2)
  | none, some n =>
    let digits := (c.skip 2).ahead n
    match hexNumber? digits with
    | none => .error .malformed
    | some code =>
      if digits.length < n then .error .malformed
      else match CodePoint.ofNat? code with
        | some p => .ok ([p], c.skip (2 + n))
        | none => .error (.scalar (.codePoint code))
  | none, none =>
    if isBreak x then
      (orMalformed (quotedBreaks? (c.rest.length + 1) (c.step.lineBreak).2)).map fun (t, c) =>
        (t.codePoints, c)
    else .error .malformed

/-- The characters up to a blank, a line break or the closing quote. -/
def quotedChars (double : Bool) : Nat → Cursor → Except YamlError (CodeText × Cursor)
  | 0, _ => .error .malformed
  | fuel + 1, c =>
    let x := c.head
    let go (t : CodeText) (c : Cursor) : Except YamlError (CodeText × Cursor) :=
      (quotedChars double fuel c).map fun (ts, c) => (t ++ ts, c)
    if !double && x == '\'' && c.peek 1 == '\'' then go [.char '\''] (c.skip 2)
    else if double && x == '\\' then (escape c).bind fun (t, c) => go t c
    else if x == (if double then '"' else '\'') || isBlankStop x then .ok ([], c)
    else go [.char x] c.step

/-- Blanks inside quotes: a line break between words counts as a space, further ones as they
are. -/
def quotedBlanks? (c : Cursor) : Option (Text × Cursor) :=
  let (blanks, c) := c.span fun x => x == ' ' || x == '\t'
  if c.head == endMark then none
  else if isBreak c.head then
    let (b, c) := c.lineBreak
    (quotedBreaks? (c.rest.length + 1) c).map fun (bs, c) =>
      ((if b ≠ ['\n'] then b else if bs.isEmpty then [' '] else []) ++ bs, c)
  else some (blanks, c)

/-- What stands between the quotes, and the cursor at the closing one. -/
def quotedBody (double : Bool) : Nat → Cursor → Except YamlError (CodeText × Cursor)
  | 0, _ => .error .malformed
  | fuel + 1, c => do
    let (t, c) ← quotedChars double (c.rest.length + 1) c
    if c.head == (if double then '"' else '\'') then return (t, c)
    else
      let (blanks, c) ← orMalformed (quotedBlanks? c)
      let (more, c) ← quotedBody double fuel c
      return (t ++ blanks.codePoints ++ more, c)

/-- A quoted scalar whose opening quote is at the cursor. -/
def quotedScalar (double : Bool) (c : Cursor) : Except YamlError (CodeText × Cursor) :=
  (quotedBody double (c.rest.length + 1) c.step).map fun (t, c) => (t, c.step)

/-! ## Plain scalars -/

/-- How many characters of a plain scalar come before the next blank, or before what ends it:
a colon with a blank behind it, and inside brackets the signs of a collection. -/
def plainLength (inFlow : Bool) : Text → Nat
  | [] => 0
  | x :: rest =>
    let next := rest.headD endMark
    if isBlankStop x then 0
    else if x == ':' && (isBlankStop next || (inFlow && ",[]\x7b\x7d".toList.contains next)) then 0
    else if inFlow && ",?[]\x7b\x7d".toList.contains x then 0
    else plainLength inFlow rest + 1

/-- Further line breaks and spaces after a line of a plain scalar; nothing if a document separator
follows one. -/
def plainBreaks? : Nat → Cursor → Option Text × Cursor
  | 0, c => (some [], c)
  | fuel + 1, c =>
    if c.head == ' ' then plainBreaks? fuel c.step
    else if isBreak c.head then
      let (b, c) := c.lineBreak
      if c.atSeparator then (none, c)
      else
        let (bs, c) := plainBreaks? fuel c
        (bs.map (b ++ ·), c)
    else (some [], c)

/-- The blanks after a part of a plain scalar: what they count as, the cursor behind them, and
whether a line break was among them. Nothing counts where the scalar ends at them. -/
def plainBlanks (c : Cursor) : Text × Cursor × Bool :=
  let (spaces, c) := c.span (· == ' ')
  if isBreak c.head then
    let (b, c) := c.lineBreak
    if c.atSeparator then ([], c, true)
    else
      match plainBreaks? (c.rest.length + 1) c with
      | (none, c) => ([], c, true)
      | (some bs, c) =>
        ((if b ≠ ['\n'] then b else if bs.isEmpty then [' '] else []) ++ bs, c, true)
  else (spaces, c, false)

/-- The parts of a plain scalar from the cursor on; `before` are the blanks in front of the first,
which count only if a part follows. The last component tells whether the scalar ends behind a line
break. -/
def plainParts (inFlow : Bool) (indent : Int) (before : Text) (broken : Bool) :
    Nat → Cursor → Text × Cursor × Bool
  | 0, c => ([], c, broken)
  | fuel + 1, c =>
    let n := plainLength inFlow c.rest
    if c.head == '#' || n = 0 then ([], c, broken)
    else
      let part := c.ahead n
      let (blanks, d, newLine) := plainBlanks (c.skip n)
      if blanks.isEmpty || d.head == '#' || (!inFlow && (d.column : Int) < indent) then
        (before ++ part, d, newLine)
      else
        let (more, e, ended) := plainParts inFlow indent blanks newLine fuel d
        (before ++ part ++ more, e, ended)

/-- A plain scalar; lines after its first are indented by `indent` columns or more. -/
def plainScalar (inFlow : Bool) (indent : Int) (c : Cursor) : Text × Cursor × Bool :=
  plainParts inFlow indent [] false (c.rest.length + 1) c

/-! ## Block scalars -/

/-- How a block scalar ends: without its last line breaks, with one, or with all. -/
inductive Chomping where
  | strip
  | clip
  | keep

/-- The signs behind the mark of a block scalar: how it ends, and how far it is indented. -/
def blockHeader? (c : Cursor) : Option (Chomping × Option Nat × Cursor) :=
  let ending (x : Char) : Option Chomping :=
    if x == '+' then some .keep else if x == '-' then some .strip else none
  let depth (x : Char) : Option Nat :=
    if isAsciiDigit x then some (x.toNat - 48) else none
  let done (chomping : Chomping) (increment : Option Nat) (c : Cursor) :
      Option (Chomping × Option Nat × Cursor) :=
    if increment == some 0 || !isSpaceStop c.head then none else some (chomping, increment, c)
  match ending c.head, depth c.head with
  | some chomping, _ =>
    match depth (c.peek 1) with
    | some n => done chomping (some n) (c.skip 2)
    | none => done chomping none c.step
  | none, some n =>
    match ending (c.peek 1) with
    | some chomping => done chomping (some n) (c.skip 2)
    | none => done .clip (some n) c.step
  | none, none => done .clip none c

/-- What may follow on the line of the header: spaces and a comment. -/
def restOfLine? (c : Cursor) : Option Cursor :=
  let c := c.skipSpaces.skipComment
  if isLineStop c.head then some c.lineBreak.2 else none

/-- The empty lines before a block scalar's first line, and the greatest indent among them. -/
def blockIndent : Nat → Nat → Cursor → Text × Nat × Cursor
  | 0, deepest, c => ([], deepest, c)
  | fuel + 1, deepest, c =>
    if c.head == ' ' then
      let c := c.step
      blockIndent fuel (max deepest c.column) c
    else if isBreak c.head then
      let (b, c) := c.lineBreak
      let (bs, deepest, c) := blockIndent fuel deepest c
      (b ++ bs, deepest, c)
    else ([], deepest, c)

/-- The cursor behind the spaces that indent a line by up to `indent` columns. -/
def skipIndent (indent : Nat) (c : Cursor) : Cursor :=
  c.skip ((c.rest.take (indent - c.column)).takeWhile (· == ' ')).length

/-- Empty lines between the lines of a block scalar. -/
def blockBreaks (indent : Nat) : Nat → Cursor → Text × Cursor
  | 0, c => ([], c)
  | fuel + 1, c =>
    let c := skipIndent indent c
    if isBreak c.head then
      let (b, c) := c.lineBreak
      let (bs, c) := blockBreaks indent fuel c
      (b ++ bs, c)
    else ([], c)

/-- The lines of a block scalar from the cursor on, with the empty lines before the first. Between
two lines that start with no blank a folded line break is a space. -/
def blockLines (folded : Bool) (chomping : Chomping) (indent : Nat) (breaks : Text) :
    Nat → Cursor → Text × Cursor
  | 0, c => ([], c)
  | fuel + 1, c =>
    let solid := c.head != ' ' && c.head != '\t'
    let (line, c) := c.span fun x => !isBreak x
    let (b, c) := c.lineBreak
    let (bs, c) := blockBreaks indent (c.rest.length + 1) c
    if c.column = indent ∧ c.head ≠ endMark then
      let fold := folded && b == ['\n'] && solid && c.head != ' ' && c.head != '\t'
      let between := if fold then (if bs.isEmpty then [' '] else []) else b
      let (more, c) := blockLines folded chomping indent bs fuel c
      (breaks ++ line ++ between ++ more, c)
    else
      let ending := match chomping with
        | .strip => []
        | .clip => b
        | .keep => b ++ bs
      (breaks ++ line ++ ending, c)

/-- A block scalar whose mark is at the cursor, in a collection indented by `parent` columns. -/
def blockScalar? (folded : Bool) (parent : Int) (c : Cursor) : Option (Text × Cursor) :=
  (blockHeader? c.step).bind fun (chomping, increment, c) =>
    (restOfLine? c).map fun c =>
      let least := max 1 (parent + 1).toNat
      let fuel := c.rest.length + 1
      let (breaks, indent, c) :=
        match increment with
        | some n =>
          let indent := least + n - 1
          let (bs, c) := blockBreaks indent fuel c
          (bs, indent, c)
        | none =>
          let (bs, deepest, c) := blockIndent fuel 0 c
          (bs, max least deepest, c)
      if c.column = indent ∧ c.head ≠ endMark then
        blockLines folded chomping indent breaks fuel c
      else
        match chomping with
        | .keep => (breaks, c)
        | _ => ([], c)

end Yaml

end CssColor
