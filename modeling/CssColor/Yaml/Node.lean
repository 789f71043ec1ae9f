import CssColor.Yaml.Tag
import CssColor.Yaml.Token

/-!
# YAML nodes

- `Node`, `Graph`: the nodes of a document by their numbers. An alias is the
  number of the node that its anchor marks, so that a node may stand in several
  places, or inside itself.
- `Reader`: the state of reading nodes from tokens.
- `Document.ofTokens`: the one document that tokens make; a stream may hold none.
-/

namespace CssColor

namespace Yaml

/-- A node of a document; the nodes inside it are given by their numbers. -/
inductive Node where
  | scalar (tag : Tag) (t : CodeText)
  | sequence (tag : Tag) (items : List Nat)
  | mapping (tag : Tag) (entries : List (Nat × Nat))
  deriving DecidableEq, Repr

namespace Node

/-- The node where a scalar is left out. -/
def empty : Node :=
  .scalar .null []

/-- The kind of a node. -/
def tag : Node → Tag
  | .scalar tag _ => tag
  | .sequence tag _ => tag
  | .mapping tag _ => tag

end Node

/-- The nodes of a document; the number of a node is its place here. -/
abbrev Graph := Array Node

/-- The nodes of a document, and the number of the one at its top. -/
structure Document where
  graph : Graph
  top : Nat

/-! ## Properties of a node -/

/-- The tag handles of a document and the starts of tags that they stand for. -/
abbrev Handles := List (Text × Text)

/-- The handles that every document has. -/
def commonHandles : Handles :=
  [(['!'], ['!']), (['!', '!'], Tag.commonStart)]

/-- A tag that leaves the kind open. -/
def openTag : Text := ['!']

/-- The kind of a collection with a tag, or the common one. -/
def collectionTag (common : Tag) : Option Text → Tag
  | none => common
  | some uri => if uri = openTag then common else Tag.ofUri uri

/-- The kind of a scalar: by its tag; without one, by its form if it has no quotes. -/
def scalarTag (t : CodeText) (plain : Bool) : Option Text → Tag
  | none => if plain then Tag.ofPlain t else .str
  | some uri => if uri = openTag then Tag.ofPlain t else Tag.ofUri uri

/-- The properties written before a node. -/
structure Properties where
  anchor : Option Text := none
  tag : Option (Option Text × Text) := none

/-- Whether anything is written before a node. -/
def Properties.isEmpty (p : Properties) : Bool :=
  p.anchor.isNone && p.tag.isNone

/-! ## Reading -/

/-- The tokens that are left and the error behind them, the handles of the document, the nodes met
so far, the anchors among them, and how many collections may yet be opened inside those that are. -/
structure Reader where
  stream : TokenStream
  handles : Handles := commonHandles
  nodes : Graph := #[]
  anchors : List (Text × Nat) := []
  room : Nat

/-- A step of reading: its result and the state behind it, or why there is none. -/
abbrev Read := StateT Reader (Except YamlError)

namespace Reader

/-- The next token; there is none at the end of the stream. -/
def peek : Read (Option Token) := do
  match (← get).stream with
  | ⟨t :: _, _⟩ => return some t
  | ⟨[], some e⟩ => throw e
  | ⟨[], none⟩ => return none

/-- Goes past a token. -/
def advance : Read Unit :=
  modify fun r => { r with stream := { r.stream with tokens := r.stream.tokens.tail } }

/-- Adds a node and marks it with an anchor; its number. -/
def add (n : Node) (anchor : Option Text) : Read Nat :=
  modifyGet fun r =>
    let number := r.nodes.size
    (number, { r with
      nodes := r.nodes.push n
      anchors := (anchor.map (·, number)).toList ++ r.anchors })

/-- Puts a node in the place of the one that has its number. -/
def put (number : Nat) (n : Node) : Read Unit :=
  modify fun r => { r with nodes := r.nodes.setIfInBounds number n }

/-- Adds the node where a scalar is left out. -/
def addEmpty : Read Nat :=
  add Node.empty none

/-- The node of an alias. -/
def aliased (name : Text) : Read Nat := do
  match (← get).anchors.lookup name with
  | some number => return number
  | none => throw .malformed

/-- An anchor and a tag, in either order and each at most once. -/
def properties : Read Properties := do
  match ← peek with
  | some (.anchor a) =>
    advance
    match ← peek with
    | some (.tag handle ending) =>
      advance
      return ⟨some a, some (handle, ending)⟩
    | _ => return ⟨some a, none⟩
  | some (.tag handle ending) =>
    advance
    match ← peek with
    | some (.anchor a) =>
      advance
      return ⟨some a, some (handle, ending)⟩
    | _ => return ⟨none, some (handle, ending)⟩
  | _ => return {}

/-- The whole text of a tag; its handle must be known. -/
def tagUri (written : Option (Option Text × Text)) : Read (Option Text) := do
  match written with
  | none => return none
  | some (none, ending) => return some ending
  | some (some handle, ending) =>
    match (← get).handles.lookup handle with
    | some start => return some (start ++ ending)
    | none => throw .malformed

/-- Reads the parts of a collection inside those that are open. -/
def nested {α : Type} (parts : Read α) : Read α := do
  match (← get).room with
  | 0 => throw (.scalar .tooDeep)
  | room + 1 =>
    modify fun r => { r with room := room }
    let found ← parts
    modify fun r => { r with room := room + 1 }
    return found

/-- Refuses an anchor that was met before. -/
def checkAnchor : Option Text → Read Unit
  | none => return ()
  | some a => do if ((← get).anchors.lookup a).isSome then throw .malformed

end Reader

/-! ## Where nodes are left out -/

/-- Where a node stands, which tells what collections may begin there. -/
inductive Place where
  /-- Inside brackets or braces. -/
  | flow
  /-- In a block collection or at the top. -/
  | block
  /-- In a block mapping, where a sequence needs no indentation of its own. -/
  | mappingPart
  deriving DecidableEq

/-- Whether a token ends an entry of a block sequence. -/
def endsBlockEntry : Option Token → Bool
  | some .blockEntry => true
  | some .blockEnd => true
  | _ => false

/-- Whether a token ends a part of a block mapping. -/
def endsMappingPart : Option Token → Bool
  | some .key => true
  | some .value => true
  | some .blockEnd => true
  | _ => false

/-- Whether a token ends an entry of a sequence without indentation of its own. -/
def endsPlainEntry (t : Option Token) : Bool :=
  endsBlockEntry t || endsMappingPart t

/-- Whether a token ends a value inside brackets that end with `closing`. -/
def endsFlowValue (closing : Token) (t : Option Token) : Bool :=
  t = some .flowEntry || t = some closing

/-- Whether a token ends a key inside brackets that end with `closing`. -/
def endsFlowKey (closing : Token) (t : Option Token) : Bool :=
  t = some .value || endsFlowValue closing t

/-- To the next entry inside brackets: past a comma, which stands before every entry but the
first. -/
def toFlowEntry (first : Bool) : Read Unit := do
  if !first then
    if (← Reader.peek) = some .flowEntry then Reader.advance else throw .malformed

/-! ## Nodes -/

namespace Node

open Reader

mutual

/-- The number of the node at the next token; each call takes one of the `fuel`. -/
def read (place : Place) : Nat → Read Nat
  | 0 => throw .malformed
  | fuel + 1 => do
    match ← peek with
    | some (.alias name) =>
      advance
      aliased name
    | _ =>
      let props ← properties
      let uri ← tagUri props.tag
      let next ← peek
      checkAnchor props.anchor
      let sequence (items : Read (List Nat)) : Read Nat := do
        let number ← add (.sequence (collectionTag .seq uri) []) props.anchor
        put number (.sequence (collectionTag .seq uri) (← nested items))
        return number
      let mapping (entries : Read (List (Nat × Nat))) : Read Nat := do
        let number ← add (.mapping (collectionTag .map uri) []) props.anchor
        put number (.mapping (collectionTag .map uri) (← nested entries))
        return number
      let absent : Read Nat :=
        if props.isEmpty then throw .malformed
        else add (.scalar (scalarTag [] true uri) []) props.anchor
      match next with
      | some (.scalar t plain) =>
        advance
        add (.scalar (scalarTag t plain uri) t) props.anchor
      | some .flowSequenceStart =>
        advance
        sequence (flowItems true fuel)
      | some .flowMappingStart =>
        advance
        mapping (flowEntries true fuel)
      | some .blockEntry =>
        if place = .mappingPart then sequence (plainItems fuel) else absent
      | some .blockSequenceStart =>
        if place = .flow then absent
        else
          advance
          sequence (blockItems fuel)
      | some .blockMappingStart =>
        if place = .flow then absent
        else
          advance
          mapping (blockEntries fuel)
      | _ => absent

/-- The items of a block sequence up to its end. -/
def blockItems : Nat → Read (List Nat)
  | 0 => throw .malformed
  | fuel + 1 => do
    match ← peek with
    | some .blockEntry =>
      advance
      let item ← if endsBlockEntry (← peek) then addEmpty else read .block fuel
      return item :: (← blockItems fuel)
    | some .blockEnd =>
      advance
      return []
    | _ => throw .malformed

/-- The items of a sequence without indentation of its own. -/
def plainItems : Nat → Read (List Nat)
  | 0 => throw .malformed
  | fuel + 1 => do
    match ← peek with
    | some .blockEntry =>
      advance
      let item ← if endsPlainEntry (← peek) then addEmpty else read .block fuel
      return item :: (← plainItems fuel)
    | _ => return []

/-- The entries of a block mapping up to its end; a key without a value has an empty one. -/
def blockEntries : Nat → Read (List (Nat × Nat))
  | 0 => throw .malformed
  | fuel + 1 => do
    match ← peek with
    | some .key =>
      advance
      let key ← if endsMappingPart (← peek) then addEmpty else read .mappingPart fuel
      let value ←
        match ← peek with
        | some .value =>
          advance
          if endsMappingPart (← peek) then addEmpty else read .mappingPart fuel
        | _ => addEmpty
      return (key, value) :: (← blockEntries fuel)
    | some .blockEnd =>
      advance
      return []
    | _ => throw .malformed

/-- The items of a flow sequence up to its bracket. A key among them is a mapping of one entry. -/
def flowItems (first : Bool) : Nat → Read (List Nat)
  | 0 => throw .malformed
  | fuel + 1 => do
    if (← peek) ≠ some .flowSequenceEnd then toFlowEntry first
    match ← peek with
    | some .flowSequenceEnd =>
      advance
      return []
    | some .key =>
      advance
      let item ← add (.mapping .map []) none
      put item (.mapping .map [← nested (flowPair .flowSequenceEnd fuel)])
      return item :: (← flowItems false fuel)
    | _ =>
      let item ← read .flow fuel
      return item :: (← flowItems false fuel)

/-- A key and its value inside brackets that end with `closing`; either may be left out. -/
def flowPair (closing : Token) : Nat → Read (Nat × Nat)
  | 0 => throw .malformed
  | fuel + 1 => do
    let key ← if endsFlowKey closing (← peek) then addEmpty else read .flow fuel
    match ← peek with
    | some .value =>
      advance
      let value ← if endsFlowValue closing (← peek) then addEmpty else read .flow fuel
      return (key, value)
    | _ => return (key, ← addEmpty)

/-- The entries of a flow mapping up to its brace. -/
def flowEntries (first : Bool) : Nat → Read (List (Nat × Nat))
  | 0 => throw .malformed
  | fuel + 1 => do
    if (← peek) ≠ some .flowMappingEnd then toFlowEntry first
    match ← peek with
    | some .flowMappingEnd =>
      advance
      return []
    | some .key =>
      advance
      let entry ← flowPair .flowMappingEnd fuel
      return entry :: (← flowEntries false fuel)
    | _ =>
      let key ← read .flow fuel
      let value ← addEmpty
      return (key, value) :: (← flowEntries false fuel)

end

end Node

/-! ## Documents -/

namespace Document

open Reader

/-- The directives at the head of a document, up to the next other token: the handles. The version
must be 1 and stand once, and no handle may be defined twice. -/
def directives (version : Bool) (handles : Handles) : Nat → Read Handles
  | 0 => throw .malformed
  | fuel + 1 => do
    match ← peek with
    | some (.directive d) =>
      advance
      match d with
      | .version major =>
        if version || major ≠ 1 then throw .malformed else directives true handles fuel
      | .tag handle start =>
        if (handles.lookup handle).isSome then throw .malformed
        else directives version ((handle, start) :: handles) fuel
      | .other => directives version handles fuel
    | _ => return handles ++ commonHandles

/-- Past the marks of a document's end. -/
def skipEnds : Nat → Read Unit
  | 0 => throw .malformed
  | fuel + 1 => do
    if (← peek) = some .documentEnd then
      advance
      skipEnds fuel

/-- Whether a token begins a document whose mark is left out. -/
def isBare : Option Token → Bool
  | none => false
  | some (.directive _) => false
  | some .documentStart => false
  | _ => true

/-- Whether a document is left empty before a token. -/
def isOver (t : Option Token) : Bool :=
  !isBare t || t = some .documentEnd

/-- Past the head of a document with its mark; whether there is one. -/
def begins (fuel : Nat) : Read Bool := do
  skipEnds fuel
  if (← peek).isNone then return false
  let handles ← directives false [] fuel
  if (← peek) ≠ some .documentStart then throw .malformed
  advance
  modify fun r => { r with handles := handles }
  return true

/-- The number of the node at the top of the next document, if there is one. Only at the start of a
stream may the mark of a document be left out. -/
def first (fuel : Nat) : Read (Option Nat) := do
  if isBare (← peek) then some <$> Node.read .block fuel
  else
    let found ← begins fuel
    if !found then return none
    else if isOver (← peek) then some <$> addEmpty
    else some <$> Node.read .block fuel

/-- The number of the node at the top of the only document, if there is one. -/
def only (fuel : Nat) : Read (Option Nat) := do
  let found ← first fuel
  if found.isSome then
    let more ← begins fuel
    if more then throw .malformed
  return found

/-- The only document of a stream, if it holds one; `room` collections may be open at a time. -/
def ofTokens (room : Nat) (stream : TokenStream) : Except YamlError (Option Document) := do
  let (number, r) ← (only (4 * stream.tokens.length + 4)).run { stream, room }
  return number.map fun number => ⟨r.nodes, number⟩

end Document

end Yaml

end CssColor
