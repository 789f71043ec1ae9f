import CssColor.Text.Integer

/-!
# Edits of a text

- `Edit`: a range of a text and what takes its place.
- `applyEdits`: edits one after another, each on the text that the one before
  left.
- `sortEdits`: edits by descending start, so that no edit moves the range of one
  that is still to come.
-/

namespace CssColor

/-- The characters from `start` up to `stop` are replaced. -/
structure Edit where
  start : Nat
  stop : Nat
  replacement : Text
  start_le_stop : start ≤ stop
  deriving DecidableEq, Repr

/-- Why offsets make no edit, with the texts of the offsets. -/
inductive EditError where
  | negativeStart (start : Text)
  | stopBeforeStart (start stop : Text)
  deriving DecidableEq, Repr

/-- The message of an edit error. -/
def EditError.message : EditError → Text
  | .negativeStart start => "Edit start must be >= 0, got ".toList ++ start
  | .stopBeforeStart start stop =>
    "Edit end must be >= start, got [".toList ++ start ++ ", ".toList ++ stop ++ [')']

/-- The edit of a range, if its offsets are in order and not negative. -/
def Edit.make (start stop : Int) (replacement : Text) : Except EditError Edit :=
  if h : start < 0 then .error (.negativeStart (intText start))
  else if h' : stop < start then .error (.stopBeforeStart (intText start) (intText stop))
  else .ok ⟨start.toNat, stop.toNat, replacement, by omega⟩

/-- The text with the range of an edit replaced; offsets past the end mean the end. -/
def Edit.apply (e : Edit) (t : Text) : Text :=
  t.take e.start ++ e.replacement ++ t.drop e.stop

/-- An edit within a text splits it in three, of which it replaces the middle. -/
theorem Edit.apply_append {e : Edit} {before middle after : Text} (hstart : e.start = before.length)
    (hstop : e.stop = before.length + middle.length) :
    e.apply (before ++ middle ++ after) = before ++ e.replacement ++ after := by
  simp [Edit.apply, hstart, hstop, List.drop_append]

/-- The text after all edits in their order. -/
def applyEdits (t : Text) (edits : List Edit) : Text :=
  edits.foldl (fun t e => e.apply t) t

/-- The texts after each edit. -/
def editSteps (t : Text) : List Edit → List (Edit × Text)
  | [] => []
  | e :: rest => (e, e.apply t) :: editSteps (e.apply t) rest

/-- The edits by descending start; those with one start stay in their order. -/
def sortEdits (edits : List Edit) : List Edit :=
  edits.mergeSort fun a b => b.start ≤ a.start

end CssColor
