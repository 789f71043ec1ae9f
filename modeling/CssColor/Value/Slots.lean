import CssColor.Value.Basic

/-!
# The order of a set

A set does not keep the order in which its items came. A number falls into one
of many slots, by its remainder, and the set shows its numbers slot by slot.

- `Value.remainder?`: the remainder that a number falls by.
- `Slots`: items in slots; `Slots.insert` looks for a free one.
- `Value.setItems`: the items of a set in the order in which it shows them.
-/

namespace CssColor

namespace Value

/-! ## Remainders -/

/-- The prime that the remainders of numbers are taken by. -/
def remainderPrime : Nat := Nat.pow 2 61 - 1

/-- The remainder that infinity has. -/
def infiniteRemainder : Nat := 314159

/-- A remainder with a sign; minus one is no remainder and becomes minus two. -/
def signedRemainder (negative : Bool) (n : Nat) : Int :=
  if negative then (if n = 1 then -2 else -(n : Int)) else n

/-- The remainder of `significand * 2 ^ exponent`, where 61 halvings leave all as it is. -/
def binaryRemainder (significand : Nat) (exponent : Int) : Nat :=
  significand * Nat.pow 2 (exponent.emod 61).toNat % remainderPrime

/-- The remainder of a number; other values have none, nor has what is no number. -/
def remainder? : Value → Option Int
  | bool b => some (if b then 1 else 0)
  | int n => some (signedRemainder (decide (n < 0)) (n.natAbs % remainderPrime))
  | float x =>
    match Binary64.ofFloat x with
    | .nan => none
    | .infinite negative => some (signedRemainder negative infiniteRemainder)
    | .finite negative significand exponent =>
      some (signedRemainder negative (binaryRemainder significand exponent))
  | _ => none

end Value

/-! ## Slots -/

/-- Slots, their count a power of two. A filled slot holds a remainder as a word of 64 bits, and
the item. -/
abbrev Slots := List (Option (Nat × Value))

namespace Slots

/-- The least count of slots. -/
def leastCount : Nat := 8

/-- How many slots behind the first choice are tried before another choice is made. -/
def neighbours : Nat := 9

/-- Empty slots. -/
def empty (count : Nat) : Slots :=
  List.replicate count none

/-- The least count of slots that is greater than a number. -/
def countAbove (n : Nat) : Nat :=
  max leastCount (Nat.pow 2 (Nat.log2 n + 1))

/-- The first free slot from a place on, among so many. -/
def freeFrom? (s : Slots) (place count : Nat) : Option Nat :=
  (List.range count).findSome? fun k =>
    match s[place + k]? with
    | some none => some (place + k)
    | _ => none

/-- A free slot for a remainder. When a place and its neighbours are taken, the place and the bits
of the remainder that have not counted yet give the next one. -/
def freeFor? (s : Slots) : Nat → Nat → Nat → Option Nat
  | 0, _, _ => none
  | fuel + 1, place, bits =>
    let count := if place + neighbours < s.length then neighbours + 1 else 1
    match s.freeFrom? place count with
    | some free => some free
    | none =>
      let bits := bits / 32
      s.freeFor? fuel ((place * 5 + 1 + bits) % s.length) bits

/-- The slots with one more item. -/
def insert (s : Slots) (word : Nat) (v : Value) : Slots :=
  match s.freeFor? (s.length + 64) (word % s.length) word with
  | some free => s.set free (some (word, v))
  | none => s

/-- The same items in more slots, as many as are above a number. -/
def grow (s : Slots) (n : Nat) : Slots :=
  (s.filterMap id).foldl (fun s (word, v) => s.insert word v) (empty (countAbove n))

/-- Whether so many items are too many for the slots: three fifths of them are the limit. -/
def isCrowded (s : Slots) (items : Nat) : Bool :=
  (s.length - 1) * 3 ≤ items * 5

/-- Inserts items one after the other, into more slots whenever there are too many. -/
def insertAll (s : Slots) : List (Nat × Value) → Slots
  | [] => s
  | (word, v) :: rest =>
    let s := s.insert word v
    let items := s.countP Option.isSome
    (if s.isCrowded items then s.grow (if 50000 < items then 2 * items else 4 * items) else s)
      |>.insertAll rest

/-- Slots for some items at once. -/
def ofItems (items : List (Nat × Value)) : Slots :=
  let s := empty leastCount
  (if s.isCrowded items.length then s.grow (2 * items.length) else s).insertAll items

end Slots

/-- The items of a set in the order in which it shows them. Where not all of them are numbers they
stay as they came. -/
def Value.setItems (items : List Value) : List Value :=
  match items.mapM Value.remainder? with
  | none => items
  | some remainders =>
    let words := remainders.map fun r : Int => (r % Nat.pow 2 64).toNat
    (Slots.ofItems (words.zip items)).filterMap fun slot => slot.map Prod.snd

end CssColor
