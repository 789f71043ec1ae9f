import CssColor.Text.Utf8
import CssColor.Yaml.Scalar

/-!
# YAML tokens

- `Token`: the signs and scalars of a stream, with the starts and ends of block
  collections that its indentation tells.
- `Scanner`: the state of reading tokens: the open collections, and the places
  that turn out to be keys when a colon follows.
- `TokenStream`: the tokens that are read for sure, and why there are no more.
- `TokenStream.read`: the tokens of a stream.
-/

namespace CssColor

namespace Yaml

/-- A directive at the head of a document. -/
inductive Directive where
  /-- The version of the language. -/
  | version (major : Nat)
  /-- A handle that stands for the start of tags. -/
  | tag (handle start : Text)
  /-- A directive that means nothing here. -/
  | other
  deriving DecidableEq, Repr

/-- A token of a stream. -/
inductive Token where
  | directive (d : Directive)
  | documentStart
  | documentEnd
  | blockSequenceStart
  | blockMappingStart
  | blockEnd
  | flowSequenceStart
  | flowSequenceEnd
  | flowMappingStart
  | flowMappingEnd
  | blockEntry
  | flowEntry
  | key
  | value
  | alias (name : Text)
  | anchor (name : Text)
  | tag (handle : Option Text) (ending : Text)
  | scalar (t : CodeText) (plain : Bool)
  deriving DecidableEq, Repr

/-- A place where a key may have begun: the count of tokens before it, whether a colon must follow,
and where it stands. -/
structure PossibleKey where
  position : Nat
  required : Bool
  index : Nat
  line : Nat
  column : Nat

/-- The state of reading tokens. The tokens are kept with the last in front; `flow` counts open
brackets and braces, `indent` is the column of the innermost block collection, and `keys` holds
the possible key of each count of brackets. -/
structure Scanner where
  cursor : Cursor
  flow : Nat
  indent : Int
  outer : List Int
  keyAllowed : Bool
  keys : List (Nat × PossibleKey)
  tokens : List Token

namespace Scanner

/-- The state at the start of a stream. -/
def start (t : Text) : Scanner :=
  { cursor := Cursor.start t, flow := 0, indent := -1, outer := [], keyAllowed := true
    keys := [], tokens := [] }

/-- One more token. -/
def push (s : Scanner) (t : Token) : Scanner :=
  { s with tokens := t :: s.tokens }

/-- A token put in after the first `position` tokens. -/
def insert (s : Scanner) (position : Nat) (t : Token) : Scanner :=
  let later := s.tokens.length - position
  { s with tokens := s.tokens.take later ++ t :: s.tokens.drop later }

/-- The state with the cursor some characters on. -/
def skip (s : Scanner) (n : Nat) : Scanner :=
  { s with cursor := s.cursor.skip n }

/-! ## Indentation -/

/-- Ends the block collections that are indented further than a column. -/
def unwindFrom (column : Int) : Int → List Int → List Token → Int × List Int × List Token
  | indent, [], tokens => (indent, [], tokens)
  | indent, o :: outer, tokens =>
    if column < indent then unwindFrom column o outer (.blockEnd :: tokens)
    else (indent, o :: outer, tokens)

/-- Ends the block collections that are indented further than a column; inside brackets indentation
means nothing. -/
def unwind (s : Scanner) (column : Int) : Scanner :=
  if s.flow ≠ 0 then s
  else
    let (indent, outer, tokens) := unwindFrom column s.indent s.outer s.tokens
    { s with indent := indent, outer := outer, tokens := tokens }

/-- Opens a block collection at a column, if that is indented further: the state, and whether one
was opened. -/
def openBlock (s : Scanner) (column : Nat) : Scanner × Bool :=
  if s.indent < column then
    ({ s with indent := column, outer := s.indent :: s.outer }, true)
  else (s, false)

/-! ## Possible keys -/

/-- The possible key of the innermost collection. -/
def possibleKey? (s : Scanner) : Option PossibleKey :=
  s.keys.lookup s.flow

/-- Gives up a possible key of the innermost collection; one that must be a key may not be given
up. -/
def dropKey? (s : Scanner) : Option Scanner :=
  match s.possibleKey? with
  | some k => if k.required then none else some { s with keys := s.keys.filter (·.1 ≠ s.flow) }
  | none => some s

/-- Whether a key is over: it lies on an earlier line, or too far back. -/
def isStale (s : Scanner) (k : PossibleKey) : Bool :=
  k.line ≠ s.cursor.line || 1024 < s.cursor.index - k.index

/-- Gives up the keys that are over. -/
def dropStale? (s : Scanner) : Option Scanner :=
  if s.keys.any fun (_, k) => s.isStale k && k.required then none
  else some { s with keys := s.keys.filter fun (_, k) => !s.isStale k }

/-- Notes that a key may begin here. -/
def noteKey? (s : Scanner) : Option Scanner :=
  if s.keyAllowed then
    s.dropKey?.map fun s =>
      let c := s.cursor
      { s with
        keys := (s.flow, ⟨s.tokens.length, s.flow = 0 && s.indent = c.column, c.index, c.line,
          c.column⟩) :: s.keys }
  else some s

/-! ## What stands between tokens -/

/-- Past spaces, comments and line breaks; after a line break outside brackets a key may begin. -/
def skipBlanks : Nat → Scanner → Scanner
  | 0, s => s
  | fuel + 1, s =>
    let c := s.cursor.skipSpaces.skipComment
    if isBreak c.head then
      skipBlanks fuel
        { s with cursor := c.lineBreak.2, keyAllowed := s.keyAllowed || s.flow == 0 }
    else { s with cursor := c }

/-- To the next token; a byte order mark counts only at the start of a stream. -/
def toNext (s : Scanner) : Scanner :=
  let s := if s.cursor.index == 0 && s.cursor.head == '\ufeff' then s.skip 1 else s
  skipBlanks (s.cursor.rest.length + 1) s

/-! ## Names and tags -/

/-- The characters of the names of anchors, handles and directives. -/
def isHandleChar (c : Char) : Bool :=
  isAsciiLetter c || isAsciiDigit c || c == '-' || c == '_'

/-- The name of an anchor or alias behind its sign. -/
def anchorName? (c : Cursor) : Option (Text × Cursor) :=
  let (name, c) := c.step.span isHandleChar
  let x := c.head
  if name.isEmpty then none
  else if isBlankStop x || "?:,]\x7d%@\x60".toList.contains x then some (name, c)
  else none

/-- A handle: an exclamation mark, or a name between two; a blank may stand for its end. -/
def tagHandle? (c : Cursor) : Option (Text × Cursor) :=
  if c.head ≠ '!' then none
  else if c.peek 1 == ' ' then some (['!'], c.step)
  else
    let (name, d) := c.step.span isHandleChar
    if d.head == '!' then some ('!' :: name ++ ['!'], d.step) else none

/-- The characters of a tag. -/
def isTagChar (c : Char) : Bool :=
  isAsciiLetter c || isAsciiDigit c || "-;/?:@&=+$,_.!~*'()[]".toList.contains c

/-- Bytes that are written as a percent sign and two hexadecimal digits each. -/
def percentBytes? : Text → Option (List UInt8 × Nat)
  | '%' :: a :: b :: rest =>
    match hexValue? a, hexValue? b, percentBytes? rest with
    | some m, some n, some (bs, k) => some (UInt8.ofNat (16 * m + n) :: bs, k + 3)
    | _, _, _ => none
  | '%' :: _ => none
  | _ => some ([], 0)

/-- The parts of a tag from the cursor on. -/
def tagParts? : Nat → Cursor → Option (Text × Cursor)
  | 0, _ => none
  | fuel + 1, c =>
    if c.head == '%' then
      match percentBytes? c.rest with
      | some (bs, n) =>
        match decodeUtf8 bs with
        | .ok t => (tagParts? fuel (c.skip n)).map fun (more, c) => (t ++ more, c)
        | .error _ => none
      | none => none
    else
      let (t, d) := c.span isTagChar
      if t.isEmpty then some ([], c)
      else (tagParts? fuel d).map fun (more, c) => (t ++ more, c)

/-- The text of a tag or of its end, which may not be empty. -/
def tagText? (c : Cursor) : Option (Text × Cursor) :=
  match tagParts? (c.rest.length + 1) c with
  | some (t, d) => if c.rest.length = d.rest.length then none else some (t, d)
  | none => none

/-- Whether a handle stands at an exclamation mark: another one follows before the next blank. -/
def hasHandle (t : Text) : Bool :=
  (t.drop 1).takeWhile (fun x => !isSpaceStop x) |>.contains '!'

/-- A tag whose exclamation mark is at the cursor: its handle, if it has one, and the rest of
it. -/
def tag? (c : Cursor) : Option (Token × Cursor) :=
  let x := c.peek 1
  let read : Option (Token × Cursor) :=
    if x == '<' then
      (tagText? (c.skip 2)).bind fun (t, c) =>
        if c.head == '>' then some (.tag none t, c.step) else none
    else if isBlankStop x then some (.tag none ['!'], c.step)
    else if hasHandle c.rest then
      (tagHandle? c).bind fun (handle, c) =>
        (tagText? c).map fun (t, c) => (.tag (some handle) t, c)
    else (tagText? c.step).map fun (t, c) => (.tag (some ['!']) t, c)
  read.bind fun (t, c) => if isSpaceStop c.head then some (t, c) else none

/-! ## Directives -/

/-- The number of a version's part. -/
def versionPart (c : Cursor) : Except YamlError (Nat × Cursor) :=
  let (ds, c) := c.span isAsciiDigit
  if ds.isEmpty then .error .malformed
  else if maxIntegerDigits < ds.length then .error (.scalar (.longInteger ds.length))
  else .ok (Nat.ofDigitChars 10 ds 0, c)

/-- The value of a version directive. -/
def versionDirective (c : Cursor) : Except YamlError (Directive × Cursor) := do
  let (major, c) ← versionPart c.skipSpaces
  if c.head ≠ '.' then throw .malformed
  let (_, c) ← versionPart c.step
  if isSpaceStop c.head then return (.version major, c) else throw .malformed

/-- The value of a tag directive. -/
def tagDirective? (c : Cursor) : Option (Directive × Cursor) :=
  (tagHandle? c.skipSpaces).bind fun (handle, c) =>
    if c.head ≠ ' ' then none
    else (tagText? c.skipSpaces).bind fun (t, c) =>
      if isSpaceStop c.head then some (.tag handle t, c) else none

/-- A directive whose percent sign is at the cursor, with the end of its line. -/
def directive (c : Cursor) : Except YamlError (Token × Cursor) := do
  let (name, c) := c.step.span isHandleChar
  if name.isEmpty || !isSpaceStop c.head then throw .malformed
  let (d, c) ←
    if name = "YAML".toList then versionDirective c
    else if name = "TAG".toList then orMalformed (tagDirective? c)
    else pure (.other, (c.span fun x => !isBreak x).2)
  let c ← orMalformed (restOfLine? c)
  return (.directive d, c)

/-! ## Tokens -/

/-- A directive or the mark of a document: it ends all collections. -/
def atMargin? (s : Scanner) : Option Scanner :=
  (s.unwind (-1)).dropKey?.map fun s => { s with keyAllowed := false }

/-- The sign that opens a flow collection. -/
def openFlow? (s : Scanner) (t : Token) : Option Scanner :=
  s.noteKey?.map fun s => ({ s with flow := s.flow + 1, keyAllowed := true }.skip 1).push t

/-- The sign that closes a flow collection. -/
def closeFlow? (s : Scanner) (t : Token) : Option Scanner :=
  s.dropKey?.map fun s => ({ s with flow := s.flow - 1, keyAllowed := false }.skip 1).push t

/-- The hyphen of an entry. -/
def blockEntry? (s : Scanner) : Option Scanner :=
  let opened : Option Scanner :=
    if s.flow ≠ 0 then some s
    else if !s.keyAllowed then none
    else
      let (s, isNew) := s.openBlock s.cursor.column
      some (if isNew then s.push .blockSequenceStart else s)
  opened.bind fun s =>
    { s with keyAllowed := true }.dropKey?.map fun (s : Scanner) => (s.skip 1).push .blockEntry

/-- The question mark before a key. -/
def key? (s : Scanner) : Option Scanner :=
  let opened : Option Scanner :=
    if s.flow ≠ 0 then some s
    else if !s.keyAllowed then none
    else
      let (s, isNew) := s.openBlock s.cursor.column
      some (if isNew then s.push .blockMappingStart else s)
  opened.bind fun s =>
    { s with keyAllowed := s.flow == 0 }.dropKey?.map fun (s : Scanner) => (s.skip 1).push .key

/-- The colon before a value. What may have been a key before it is one. -/
def value? (s : Scanner) : Option Scanner :=
  match s.possibleKey? with
  | some k =>
    let s := { s with keys := s.keys.filter (·.1 ≠ s.flow) }.insert k.position .key
    let (s, isNew) := if s.flow = 0 then s.openBlock k.column else (s, false)
    let s := if isNew then s.insert k.position .blockMappingStart else s
    some (({ s with keyAllowed := false }.skip 1).push .value)
  | none =>
    if s.flow = 0 && !s.keyAllowed then none
    else
      let (s, isNew) := if s.flow = 0 then s.openBlock s.cursor.column else (s, false)
      let s := if isNew then s.push .blockMappingStart else s
      { s with keyAllowed := s.flow == 0 }.dropKey?.map fun (s : Scanner) => (s.skip 1).push .value

/-- A token that may begin a key: the state behind it. -/
def withKey (s : Scanner) (read : Cursor → Except YamlError (Token × Cursor)) :
    Except YamlError Scanner := do
  let s ← orMalformed s.noteKey?
  let (t, c) ← read s.cursor
  return { s with keyAllowed := false, cursor := c }.push t

/-- A quoted scalar, which may be a key. -/
def quoted (s : Scanner) (double : Bool) : Except YamlError Scanner :=
  s.withKey fun c => (quotedScalar double c).map fun (t, c) => (.scalar t false, c)

/-- A directive. -/
def directiveLine (s : Scanner) : Except YamlError Scanner := do
  let s ← orMalformed s.atMargin?
  let (t, c) ← directive s.cursor
  return { s with cursor := c }.push t

/-- A block scalar. -/
def block? (s : Scanner) (folded : Bool) : Option Scanner :=
  { s with keyAllowed := true }.dropKey?.bind fun s =>
    (blockScalar? folded s.indent s.cursor).map fun (t, c) =>
      { s with cursor := c }.push (.scalar (Text.codePoints t) false)

/-- A plain scalar; after one that ends with its line a key may begin. -/
def plain? (s : Scanner) : Option Scanner :=
  s.noteKey?.map fun s =>
    let (t, c, broken) := plainScalar (s.flow ≠ 0) (s.indent + 1) s.cursor
    { s with cursor := c, keyAllowed := broken }.push (.scalar (Text.codePoints t) true)

/-- Whether a plain scalar may begin with the next characters. -/
def startsPlain (s : Scanner) : Bool :=
  let x := s.cursor.head
  if !isBlankStop x && !("-?:,[]\x7b\x7d#&*!|>'\"%@\x60".toList.contains x) then true
  else !isBlankStop (s.cursor.peek 1) && (x == '-' || (s.flow == 0 && (x == '?' || x == ':')))

/-- A token at the cursor that can be read or not, for no other reason than its form. -/
def sign? (s : Scanner) : Option Scanner :=
  let c := s.cursor
  let x := c.head
  let lone := isBlankStop (c.peek 1)
  let key (read : Cursor → Option (Token × Cursor)) : Option Scanner :=
    (s.withKey fun c => orMalformed (read c)).toOption
  if c.column == 0 && x == '-' && c.atSeparator then
    s.atMargin?.map fun s => (s.skip 3).push .documentStart
  else if c.column == 0 && x == '.' && c.atSeparator then
    s.atMargin?.map fun s => (s.skip 3).push .documentEnd
  else if x == '[' then s.openFlow? .flowSequenceStart
  else if x == '\x7b' then s.openFlow? .flowMappingStart
  else if x == ']' then s.closeFlow? .flowSequenceEnd
  else if x == '\x7d' then s.closeFlow? .flowMappingEnd
  else if x == ',' then
    { s with keyAllowed := true }.dropKey?.map fun (s : Scanner) => (s.skip 1).push .flowEntry
  else if x == '-' && lone then s.blockEntry?
  else if x == '?' && (s.flow ≠ 0 || lone) then s.key?
  else if x == ':' && (s.flow ≠ 0 || lone) then s.value?
  else if x == '*' then key fun c => (anchorName? c).map fun (name, c) => (.alias name, c)
  else if x == '&' then key fun c => (anchorName? c).map fun (name, c) => (.anchor name, c)
  else if x == '!' then key tag?
  else if x == '|' && s.flow == 0 then s.block? false
  else if x == '>' && s.flow == 0 then s.block? true
  else if s.startsPlain then s.plain?
  else none

/-- The state behind the token at the cursor. -/
def fetch (s : Scanner) : Except YamlError Scanner :=
  let x := s.cursor.head
  if x == '%' && s.cursor.column == 0 then s.directiveLine
  else if x == '\'' then s.quoted false
  else if x == '"' then s.quoted true
  else orMalformed s.sign?

/-- The state behind the next token, or the last state if the stream ends. -/
def step (s : Scanner) : Except YamlError (Scanner × Bool) := do
  let s ← orMalformed s.toNext.dropStale?
  let s := s.unwind s.cursor.column
  if s.cursor.rest.isEmpty then
    let s ← orMalformed (s.unwind (-1)).dropKey?
    return (s, true)
  else return (← s.fetch, false)

/-- How many of the tokens will stay as they are: a possible key may yet turn out to be one, which
puts a token in before it. -/
def settled (s : Scanner) : Nat :=
  (s.keys.filter fun (_, k) => !s.isStale k).foldl (fun n (_, k) => min n k.position)
    s.tokens.length

end Scanner

/-- The tokens of a stream up to its end, or up to the error that it holds behind them. -/
structure TokenStream where
  tokens : List Token
  error : Option YamlError

/-- The tokens from a state on; each takes at least one character. Before an error only the settled
tokens can be used. -/
def Scanner.run : Nat → Scanner → TokenStream
  | 0, s => ⟨s.tokens.reverse, some .malformed⟩
  | fuel + 1, s =>
    match s.step with
    | .error e => ⟨s.tokens.reverse.take s.settled, some e⟩
    | .ok (s, true) => ⟨s.tokens.reverse, none⟩
    | .ok (s, false) => run fuel s

/-- The tokens of a stream; one that holds a character that streams may not hold has none. -/
def TokenStream.read (t : Text) : TokenStream :=
  if t.all isStreamChar then Scanner.run (t.length + 2) (Scanner.start t)
  else ⟨[], some .malformed⟩

end Yaml

end CssColor
