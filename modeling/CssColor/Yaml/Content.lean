import CssColor.Depths
import CssColor.Value.Basic
import CssColor.Yaml.Node
import CssColor.Yaml.Number
import CssColor.Yaml.ScalarValue

/-!
# Contents of YAML nodes

- `Content`: what a node stands for; its parts are the numbers of their nodes.
- `Build`: steps that find contents. A node stands for the same thing wherever
  it is met, so that each content is found once.
- `Build.flatten`: the entries of a mapping with those that its merge keys take
  in from other mappings.
- `Document.contents`: the contents of all nodes of a document.

Collections are met before their parts: their contents are found one after the
other, in the order in which they are met. So the first error is that of the
outermost collection.
-/

namespace CssColor

namespace Yaml

/-- What a node stands for. Two scalars are one object if they have the same origin: the node, or
no node for what is no number and is called so by its word. -/
inductive Content where
  | scalar (v : Value) (origin : Option Nat)
  | list (items : List Nat)
  | pairs (entries : List (Nat × Nat))
  | set (items : List Nat)
  | mapping (entries : List (Nat × Nat))
  deriving Inhabited

namespace Content

/-- Whether a content can be a key. -/
def isScalar : Content → Bool
  | scalar .. => true
  | _ => false

/-- Whether two contents are one key: the same object, or equal values. -/
def sameKey : Content → Content → Bool
  | scalar v origin, scalar w other => origin == other || v.sameKey w
  | _, _ => false

end Content

/-- How far steps can go, the nodes of a document, the contents that are found, and the collections
that were met and whose parts were not, the last in front. -/
structure Builder where
  depths : Depths
  graph : Graph
  contents : Array (Option Content)
  waiting : List Nat

/-- A step that finds contents, or the error that it meets. -/
abbrev Build := StateT Builder (Except YamlError)

namespace Build

/-! ## Nodes -/

/-- The node of a number. -/
def node (n : Nat) : Build Node := do
  return (← get).graph.getD n Node.empty

/-- The content of a node, if it is found. -/
def content? (n : Nat) : Build (Option Content) := do
  return (← get).contents.getD n none

/-- Sets the content of a node. -/
def settle (n : Nat) (c : Content) : Build Unit :=
  modify fun b => { b with contents := b.contents.setIfInBounds n (some c) }

/-- Puts a node in the place of another one. -/
def putNode (n : Nat) (new : Node) : Build Unit :=
  modify fun b => { b with graph := b.graph.setIfInBounds n new }

/-- The kind of a node. -/
def tag (n : Nat) : Build Tag := do
  return (← node n).tag

/-- The entries of a mapping node. -/
def entries (n : Nat) : Build (List (Nat × Nat)) := do
  match ← node n with
  | .mapping _ entries => return entries
  | _ => throw .malformed

/-- Sets the entries of a mapping node. -/
def setEntries (n : Nat) (entries : List (Nat × Nat)) : Build Unit := do
  putNode n (.mapping (← tag n) entries)

/-- The items of a sequence node. -/
def items (n : Nat) : Build (List Nat) := do
  match ← node n with
  | .sequence _ items => return items
  | _ => throw .malformed

/-! ## Scalars -/

/-- The text of a scalar node; of a mapping, that of the value that it has of its own. There is
`room` for so many nodes, and none for a mapping whose own value leads back to it. -/
def textWith : Nat → Nat → Build CodeText
  | 0, _ => throw (.scalar .tooDeep)
  | room + 1, n => do
    match ← node n with
    | .scalar _ t => return t
    | .sequence .. => throw .malformed
    | .mapping _ entries =>
      match ← entries.findM? fun (key, _) => return (← tag key) = .value with
      | some (_, v) => textWith room v
      | none => throw .malformed

/-- The text of a node. -/
def text (n : Nat) : Build CodeText := do
  textWith (← get).depths.ownValues n

/-- What a scalar denotes. -/
def denoted {α : Type} : Except ScalarError α → Build α
  | .ok a => return a
  | .error e => throw (.scalar e)

/-- Sets the value of a scalar node. -/
def settleScalar (n : Nat) (v : Value) : Build Unit :=
  settle n (.scalar v (some n))

/-- Finds the content of a number with a point. -/
def meetFloat (n : Nat) : Build Unit := do
  let t ← text n
  let x ← denoted (floatScalar t)
  settle n (.scalar (.float x) (if (floatBody t).2 = undefinedWord then none else some n))

/-- Finds the content of a moment. The value that a mapping has of its own is none. -/
def meetMoment (n : Nat) : Build Unit := do
  let t ← text n
  match ← node n with
  | .mapping .. => throw (.scalar .momentMapping)
  | _ => settleScalar n (← denoted (momentScalar t))

/-! ## Meeting nodes -/

/-- Notes a collection whose parts are yet to be met. -/
def await (n : Nat) (c : Content) : Build Unit := do
  settle n c
  modify fun b => { b with waiting := n :: b.waiting }

/-- Finds the content of a node that was not met before, that of a collection without its parts. -/
def meetNew (n : Nat) : Build Unit := do
  match ← tag n with
  | .null =>
    let _ ← text n
    settleScalar n .null
  | .bool => settleScalar n (.bool (← denoted (boolScalar (← text n))))
  | .int => settleScalar n (.int (← denoted (intScalar (← text n))))
  | .float => meetFloat n
  | .str => settleScalar n (Value.ofCodeText (← text n))
  | .binary => settleScalar n (.bytes (← orMalformed (binaryScalar? (← text n))))
  | .timestamp => meetMoment n
  | .seq => await n (.list [])
  | .omap => await n (.pairs [])
  | .pairs => await n (.pairs [])
  | .set => await n (.set [])
  | .map => await n (.mapping [])
  | .merge => throw .malformed
  | .value => throw .malformed
  | .unknown => throw .malformed

/-- Finds the content of a node. -/
def meet (n : Nat) : Build Unit := do
  if (← content? n).isNone then meetNew n

/-! ## Merge keys -/

/-- Gives the key of a mapping's own value the kind of a text, where it stands among the other
keys. -/
def renameKey (n : Nat) : Build Unit := do
  match ← node n with
  | .scalar .value t => putNode n (.scalar .str t)
  | .sequence .value items => putNode n (.sequence .str items)
  | .mapping .value entries => putNode n (.mapping .str entries)
  | _ => return ()

/-- Takes the merge keys of a mapping one after the other, each with the entries that it takes in,
and puts those before the mapping's own. A key is gone before its value is looked at, so that a
mapping can take in what is left of itself. There is `room` for so many mappings that take in one
another. -/
def flattenWith : Nat → Nat → Nat → Build Unit
  | _, 0, _ => throw (.scalar .tooDeep)
  | 0, _, _ => return ()
  | fuel + 1, room + 1, n => do
    let all ← entries n
    let tags ← all.mapM fun (key, _) => tag key
    let place := tags.idxOf .merge
    match all[place]? with
    | none => all.forM fun (key, _) => renameKey key
    | some (_, v) =>
      setEntries n (all.eraseIdx place)
      let taken ←
        match ← node v with
        | .mapping .. =>
          flattenWith fuel room v
          entries v
        | .sequence _ items =>
          let parts ← items.mapM fun item => do
            let _ ← entries item
            flattenWith fuel room item
            entries item
          pure parts.reverse.flatten
        | .scalar .. => throw .malformed
      flattenWith fuel (room + 1) n
      setEntries n (taken ++ (← entries n))

/-- The count of entries in all mappings. -/
def countEntries (g : Graph) : Nat :=
  g.foldl (fun count n => match n with
    | .mapping _ entries => count + entries.length
    | _ => count) 0

/-- The entries of a mapping node, without merge keys. -/
def flatten (n : Nat) : Build (List (Nat × Nat)) := do
  let _ ← entries n
  let b ← get
  flattenWith (countEntries b.graph + 1) b.depths.merges n
  entries n

/-! ## Collections -/

/-- Sets an entry: a key that is there keeps its place and gets the new value. -/
def setEntry (contents : Array (Option Content)) (key value : Nat) :
    List (Nat × Nat) → List (Nat × Nat)
  | [] => [(key, value)]
  | (k, v) :: rest =>
    match contents.getD k none, contents.getD key none with
    | some c, some d =>
      if c.sameKey d then (k, value) :: rest else (k, v) :: setEntry contents key value rest
    | _, _ => (k, v) :: setEntry contents key value rest

/-- Meets an entry of a mapping; only scalars can be keys. -/
def meetEntry (found : List (Nat × Nat)) (entry : Nat × Nat) : Build (List (Nat × Nat)) := do
  let (key, value) := entry
  meet key
  if !(← content? key).any Content.isScalar then throw .malformed
  meet value
  return setEntry (← get).contents key value found

/-- Meets an item that is a mapping of one entry. -/
def meetPair (n : Nat) : Build (Nat × Nat) := do
  match ← entries n with
  | [(key, value)] =>
    meet key
    meet value
    return (key, value)
  | _ => throw .malformed

/-- Finds the parts of a collection. -/
def fill (n : Nat) : Build Unit := do
  match ← content? n with
  | some (.list _) =>
    let found ← items n
    found.forM meet
    settle n (.list found)
  | some (.pairs _) => settle n (.pairs (← (← items n).mapM meetPair))
  | some (.set _) => settle n (.set ((← (← flatten n).foldlM meetEntry []).map Prod.fst))
  | some (.mapping _) => settle n (.mapping (← (← flatten n).foldlM meetEntry []))
  | _ => return ()

/-- Finds the parts of all collections that wait, then those of the collections met there, and so
on. -/
def fillAll : Nat → Build Unit
  | 0 => return ()
  | fuel + 1 => do
    let waiting := (← get).waiting
    if waiting.isEmpty then return ()
    modify fun b => { b with waiting := [] }
    waiting.reverse.forM fill
    fillAll fuel

end Build

/-- The contents of the nodes of a document by their numbers. -/
def Document.contents (depths : Depths) (d : Document) :
    Except YamlError (Array (Option Content)) := do
  let build : Build Unit := do
    Build.meet d.top
    Build.fillAll (d.graph.size + 1)
  let (_, b) ← build.run ⟨depths, d.graph, Array.replicate d.graph.size none, []⟩
  return b.contents

end Yaml

end CssColor
