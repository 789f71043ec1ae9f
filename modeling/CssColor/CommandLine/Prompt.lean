import CssColor.Fault

/-!
# Asking for a target

- `targetMenu`: the targets to choose from, with the current one marked.
- `targetAnswer`: the target that an answer chooses, by its number or its name.
- `splitLine`: the first line of an input and what follows it.
-/

namespace CssColor

/-- A text filled up with spaces to at least `width` characters. -/
def padded (width : Nat) (t : Text) : Text :=
  t ++ List.replicate (width - t.length) ' '

/-- The line of the menu for a target. -/
def targetMenuLine (current : Target) (entry : Target × Nat) : Text :=
  let (target, index) := entry
  ' ' :: (if target = current then '*' else ' ') :: natText (index + 1) ++ ". ".toList
    ++ padded 12 target.label ++ ' ' :: target.description ++ ['\n']

/-- The targets to choose from, and the question for one of them. -/
def targetMenu (current : Target) : Text :=
  "Convert colors to:\n".toList ++ Target.all.zipIdx.flatMap (targetMenuLine current)
    ++ "Format [".toList ++ current.name ++ "]: ".toList

/-- The first line of an input, with its line feed, and what follows it. -/
def splitLine : Text → Text × Text
  | [] => ([], [])
  | '\n' :: rest => (['\n'], rest)
  | c :: rest =>
    let (line, after) := splitLine rest
    (c :: line, after)

/-- Nothing of an input is lost when its first line is split off. -/
theorem splitLine_append (t : Text) : (splitLine t).1 ++ (splitLine t).2 = t := by
  fun_induction splitLine t with
  | case1 => rfl
  | case2 => rfl
  | case3 c rest _ line after h ih => simpa [h] using ih

/-- The target with the given number, counted from one. -/
def targetNumbered? (n : Int) : Option Target :=
  if n < 1 then none else Target.all[n.toNat - 1]?

/-- The target that an answer chooses: the current one if it is blank, and none if there is no such
number or name. An answer in digits that are no number is a fault. -/
def targetAnswer (current : Target) (line : Text) : Except Fault (Option Target) :=
  let answer := line.trim
  if answer.isEmpty then .ok (some current)
  else if answer.all isDigitLike then
    match answer.integer with
    | .ok n => .ok (targetNumbered? n)
    | .error e => .error (.integer e)
  else
    match Target.parse answer with
    | .ok target => .ok (some target)
    | .error _ => .ok none

end CssColor
