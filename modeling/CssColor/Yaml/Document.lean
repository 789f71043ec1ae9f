import CssColor.Value.Slots
import CssColor.Yaml.Content

/-!
# Values of YAML documents

- `Document.value`: the value that a document stands for. A collection that
  holds itself gets its node's number as its name.
- `Yaml.read`: the value of the one document of a stream.
-/

namespace CssColor

namespace Yaml

/-- The values of nodes that were met and mention no collection around them. -/
abbrev Known := Array (Option Value)

/-- The value of a scalar. -/
def scalarValue (contents : Array (Option Content)) (n : Nat) : Value :=
  match contents.getD n none with
  | some (.scalar v _) => v
  | _ => .null

/-- The value of a collection of the given parts, and what these mention. -/
def joinParts (make : List Value → Value) (parts : List (Value × List Nat)) : Value × List Nat :=
  (make (parts.map Prod.fst), parts.flatMap Prod.snd)

/-- The value of a node inside the collections `around` it, each step down taking one of the
`fuel`; and the names of all collections that it mentions. -/
def valueAt (contents : Array (Option Content)) :
    Nat → List Nat → Nat → StateM Known (Value × List Nat)
  | 0, _, _ => return (.null, [])
  | fuel + 1, around, n => do
    let inside := n :: around
    let part := valueAt contents fuel inside
    let collected (collection : Collection) (read : StateM Known (Value × List Nat)) :
        StateM Known (Value × List Nat) := do
      if around.contains n then return (.mention n collection, [n])
      if let some v := (← get).getD n none then return (v, [])
      let (v, mentions) ← read
      if mentions.isEmpty then
        modify fun known => known.setIfInBounds n (some v)
        return (v, [])
      else return (if mentions.any inside.contains then .named n v else v, mentions)
    match contents.getD n none with
    | none => return (.null, [])
    | some (.scalar v _) => return (v, [])
    | some (.list items) => collected .list do return joinParts .list (← items.mapM part)
    | some (.pairs entries) =>
      collected .list do
        let keys ← entries.mapM fun (k, _) => part k
        let values ← entries.mapM fun (_, v) => part v
        let pairs := (keys.zip values).map fun ((k, inKey), (v, inValue)) =>
          (Value.pair k v, inKey ++ inValue)
        return joinParts .list pairs
    | some (.set items) =>
      collected .set do return (.set (Value.setItems (items.map (scalarValue contents))), [])
    | some (.mapping entries) =>
      collected .mapping do
        let values ← entries.mapM fun (_, v) => part v
        let keys := entries.map fun (k, _) => scalarValue contents k
        return joinParts (fun values => .mapping (keys.zip values)) values

/-- The value that a document stands for. -/
def Document.value (depths : Depths) (d : Document) : Except YamlError Value := do
  let contents ← d.contents depths
  let known := Array.replicate d.graph.size none
  let ((v, _), _) := (valueAt contents (d.graph.size + 1) [] d.top).run known
  return v

/-- The value of the one document of a stream; no document has the value null. -/
def read (depths : Depths) (t : Text) : Except YamlError Value := do
  match ← Document.ofTokens depths.collections (TokenStream.read t) with
  | none => return .null
  | some d => d.value depths

end Yaml

end CssColor
