import CssColor.Number.Rounding
import CssColor.Text.CodePoint
import CssColor.Value.Calendar

/-!
# Values of settings

- `Value`: what a settings document may hold at any place.
- `Value.opened`: a collection that holds itself, with the whole of it in each
  place where it is mentioned inside.
- `Value.kind`: the name of a value's kind.
- `Value.sameKey`: when two keys of a mapping are one; numbers are compared as
  numbers, and truth values count as one and zero.
-/

namespace CssColor

/-- A kind of value that holds others. -/
inductive Collection where
  | list
  | set
  | mapping
  deriving DecidableEq, Repr

/-- A value of a settings document. -/
inductive Value where
  | null
  | bool (b : Bool)
  | int (n : Int)
  | float (x : Float)
  | text (t : Text)
  /-- A text in which a half of a surrogate pair stands. -/
  | codeText (t : CodeText)
  | bytes (bs : List UInt8)
  | date (d : Date)
  | moment (m : Moment)
  | pair (first second : Value)
  | list (items : List Value)
  | set (items : List Value)
  | mapping (entries : List (Value × Value))
  /-- A collection that holds itself, with the name under which it is mentioned inside. -/
  | named (name : Nat) (v : Value)
  /-- A mention of the collection around it that has the name. -/
  | mention (name : Nat) (collection : Collection)
  deriving Inhabited

namespace Value

/-- A text as a value. -/
def ofCodeText (t : CodeText) : Value :=
  match t.text? with
  | some t => text t
  | none => codeText t

/-! ## Collections that hold themselves -/

mutual

/-- A value with `whole` in the place of each mention of a name. -/
def replace (name : Nat) (whole : Value) : Value → Value
  | pair a b => pair (replace name whole a) (replace name whole b)
  | list items => list (replaceAll name whole items)
  | set items => set (replaceAll name whole items)
  | mapping entries => mapping (replaceEntries name whole entries)
  | named n v => named n (replace name whole v)
  | mention n collection => if n = name then whole else mention n collection
  | v => v

/-- Values with `whole` in the place of each mention of a name. -/
def replaceAll (name : Nat) (whole : Value) : List Value → List Value
  | [] => []
  | v :: rest => replace name whole v :: replaceAll name whole rest

/-- Entries with `whole` in the place of each mention of a name. -/
def replaceEntries (name : Nat) (whole : Value) : List (Value × Value) → List (Value × Value)
  | [] => []
  | (k, v) :: rest =>
    (replace name whole k, replace name whole v) :: replaceEntries name whole rest

end

/-- A value whose parts can be taken out of it: a collection with a name stands in full where it is
mentioned inside. -/
def opened : Value → Value
  | named name v => replace name (named name v) v
  | v => v

/-! ## Kinds -/

/-- The name of a kind of collection. -/
def collectionKind : Collection → Text
  | .list => "list".toList
  | .set => "set".toList
  | .mapping => "dict".toList

/-- The name of a value's kind. -/
def kind : Value → Text
  | null => "NoneType".toList
  | bool _ => "bool".toList
  | int _ => "int".toList
  | float _ => "float".toList
  | text _ => "str".toList
  | codeText _ => "str".toList
  | bytes _ => "bytes".toList
  | date _ => "date".toList
  | moment _ => "datetime".toList
  | pair .. => "tuple".toList
  | list _ => collectionKind .list
  | set _ => collectionKind .set
  | mapping _ => collectionKind .mapping
  | named _ v => v.kind
  | mention _ collection => collectionKind collection

/-! ## Keys -/

/-- The whole number that a value is, as a key. -/
def keyInt? : Value → Option Int
  | bool b => some (if b then 1 else 0)
  | int n => some n
  | float x =>
    match floorFloat x, floorFloat (-x) with
    | .ok below, .ok above => if above = -below then some below else none
    | _, _ => none
  | _ => none

/-- Whether two keys are one. -/
def sameKey : Value → Value → Bool
  | null, null => true
  | text a, text b => a == b
  | codeText a, codeText b => a == b
  | bytes a, bytes b => a == b
  | date a, date b => a == b
  | moment a, moment b => a.isSame b
  | pair a b, pair c d => sameKey a c && sameKey b d
  | float a, float b => a == b
  | a, b =>
    match a.keyInt?, b.keyInt? with
    | some m, some n => m == n
    | _, _ => false

/-- Sets an entry: a key that is there keeps its place and gets the new value. -/
def setEntry (key value : Value) : List (Value × Value) → List (Value × Value)
  | [] => [(key, value)]
  | (k, v) :: rest =>
    if sameKey k key then (k, value) :: rest else (k, v) :: setEntry key value rest

/-- The value of an entry whose key is a text. -/
def entry? (key : Text) (entries : List (Value × Value)) : Option Value :=
  (entries.find? fun (k, _) => sameKey k (text key)).map Prod.snd

end Value

end CssColor
