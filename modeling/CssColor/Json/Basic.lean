import CssColor.Text.Basic

/-!
# JSON documents

- `Json`: a document. Whole numbers and doubles are told apart, and the members
  of an object keep their order.
- `Json.member?`: a member of an object by its name.
- `Json.kind`: the name of a document's kind.
- `Json.parts?`: the documents that one can be taken apart into.
- `Json.same`: whether two documents are equal.
-/

namespace CssColor

/-- A JSON document. -/
inductive Json where
  | null
  | bool (b : Bool)
  | int (n : Int)
  | float (x : Float)
  | string (t : Text)
  | array (items : List Json)
  | object (members : List (Text × Json))

namespace Json

/-- Sets a member: a name that is there keeps its place and gets the new document. -/
def setMember (name : Text) (value : Json) : List (Text × Json) → List (Text × Json)
  | [] => [(name, value)]
  | (n, v) :: rest =>
    if n = name then (n, value) :: rest else (n, v) :: setMember name value rest

/-- The member of an object with the given name. -/
def member? (name : Text) : Json → Option Json
  | object members => members.lookup name
  | _ => none

/-- The name of a document's kind. -/
def kind : Json → Text
  | null => "NoneType".toList
  | bool _ => "bool".toList
  | int _ => "int".toList
  | float _ => "float".toList
  | string _ => "str".toList
  | array _ => "list".toList
  | object _ => "dict".toList

/-- The items of a list, the characters of a string, or the names in an object. -/
def parts? : Json → Option (List Json)
  | array items => some items
  | string t => some (t.map fun c => string [c])
  | object members => some (members.map fun (name, _) => string name)
  | _ => none

/-! ## Equality -/

mutual

/-- Whether two documents are of one kind and equal; doubles are compared as numbers, so that what
is no number equals nothing. -/
def same : Json → Json → Bool
  | null, null => true
  | bool a, bool b => a == b
  | int a, int b => a == b
  | float a, float b => a == b
  | string a, string b => a == b
  | array a, array b => sameItems a b
  | object a, object b => sameMembers a b
  | _, _ => false

/-- Whether two lists have equal items. -/
def sameItems : List Json → List Json → Bool
  | [], [] => true
  | a :: as, b :: bs => same a b && sameItems as bs
  | _, _ => false

/-- Whether two objects have equal members in one order. -/
def sameMembers : List (Text × Json) → List (Text × Json) → Bool
  | [], [] => true
  | (m, a) :: as, (n, b) :: bs => m == n && same a b && sameMembers as bs
  | _, _ => false

end

end Json

end CssColor
