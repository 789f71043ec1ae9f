import CssColor.Conversion
import CssColor.Json.Number
import CssColor.Number.Rounding
import CssColor.Text.Line

/-!
# Offsets of any kind

- `Offset`: a number that is given as an offset, whole or not.
- `regionOf`: the part of a text between two offsets.
- `Text.lineSpanOf`: the offsets of a range of lines.
- `Declaration.offsetsOf`: where a declaration of given texts would stand.
- `EditRequest`: an edit that is asked for.

Numbers that are not whole have their place in the order of offsets, but no text
can be cut there. Other documents are no offsets.
-/

namespace CssColor

/-- A number that is given as an offset. -/
inductive Offset where
  | whole (n : Int)
  | double (x : Float)

/-- A document as an offset; a truth value is one or zero. -/
def Json.offset? : Json → Option Offset
  | .float x => some (.double x)
  | j => j.whole?.map .whole

namespace Offset

/-- Whether one offset is below another; they are compared by their exact values, and nothing is
below or above what is no number. -/
def isBelow : Offset → Offset → Bool
  | whole m, whole n => m < n
  | double x, double y => x < y
  | whole n, double y =>
    match Binary64.ofFloat y with
    | .nan => false
    | .infinite negative => !negative
    | .finite negative significand exponent => n < -floorFinite (!negative) significand exponent
  | double x, whole n =>
    match Binary64.ofFloat x with
    | .nan => false
    | .infinite negative => negative
    | .finite negative significand exponent => floorFinite negative significand exponent < n

/-- Whole offsets are ordered as numbers are. -/
theorem isBelow_whole (m n : Int) : (whole m).isBelow (whole n) = decide (m < n) := rfl

/-- The whole number that an offset is; at no other a text can be cut. -/
def place : Offset → Except OperandError Int
  | whole n => .ok n
  | double _ => .error .noBound

/-- An offset limited to the range from `low` up to `high`. -/
def limit (low high offset : Offset) : Offset :=
  let upTo := if high.isBelow offset then high else offset
  if low.isBelow upTo then upTo else low

/-- Whole offsets are limited as numbers are. -/
theorem limit_whole (low high n : Int) :
    limit (whole low) (whole high) (whole n) = whole (max low (min n high)) := by
  simp only [limit, isBelow_whole, decide_eq_true_eq]
  split <;> simp only [isBelow_whole, decide_eq_true_eq] <;> split <;> congr 1 <;> omega

end Offset

/-! ## Regions -/

/-- A document as an offset that is compared with the length of a text. -/
def Json.limited (j : Json) (low : Offset) (length : Nat) :
    Except OperandError Offset :=
  match j.offset? with
  | some offset => .ok (Offset.limit low (.whole length) offset)
  | none => .error (.unordered ['<'] Json.wholeKind j.kind)

/-- The offsets of the part of a text that two documents select. If the part is empty they are
equal, and the text need not be cut. -/
def regionOf (t : Text) (start stop : Json) : Except OperandError (Int × Int) := do
  let first ← start.limited (.whole 0) t.length
  let last ← stop.limited first t.length
  if first.isBelow last then return (← first.place, ← last.place)
  else return (0, 0)

/-- Whole offsets limit the region as they limit a conversion. -/
theorem regionOf_int (t : Text) (start stop : Int) :
    regionOf t (.int start) (.int stop) =
      let first := limitOffset 0 start t
      let last := limitOffset first stop t
      .ok (if first < last then (↑first, ↑last) else (0, 0)) := by
  have first : (Offset.whole 0).limit (.whole t.length) (.whole start) =
      .whole (limitOffset 0 start t) := by
    rw [Offset.limit_whole]
    congr 1
    simp only [limitOffset]
    omega
  have last : (Offset.whole (limitOffset 0 start t)).limit (.whole t.length) (.whole stop) =
      .whole (limitOffset (limitOffset 0 start t) stop t) := by
    rw [Offset.limit_whole]
    congr 1
    simp only [limitOffset]
    omega
  simp only [regionOf, Json.limited, Json.offset?, Json.whole?, Option.map_some, bind, Except.bind,
    first, last, Offset.isBelow_whole, decide_eq_true_eq, Int.ofNat_lt]
  split <;> rfl

/-- The region between whole offsets is converted as the offsets say. -/
theorem map_convertRegion_regionOf (o : Options) (t : Text) (start stop : Int) :
    (regionOf t (.int start) (.int stop)).map (fun region => convertRegion o t region.1 region.2) =
      .ok (convertRegion o t start stop) := by
  have low_le (low : Nat) (n : Int) : low ≤ limitOffset low n t := by
    simp only [limitOffset]
    omega
  have limited {low n : Nat} (hlow : low ≤ n) (hn : n ≤ t.length) :
      limitOffset low n t = n := by
    simp only [limitOffset]
    omega
  have first_le : limitOffset 0 start t ≤ t.length := by
    simp only [limitOffset]
    omega
  have last_le : limitOffset (limitOffset 0 start t) stop t ≤ t.length := by
    simp only [limitOffset] at first_le ⊢
    omega
  have ordered := low_le (limitOffset 0 start t) stop
  rw [regionOf_int]
  simp only [Except.map, convertRegion, ColorLibrary.convertRegion, convertPart_eq]
  congr 1
  split
  · next h => simp only [limited (Nat.zero_le _) first_le, limited ordered last_le]
  · next h =>
    have same : limitOffset 0 start t = limitOffset (limitOffset 0 start t) stop t := by omega
    have zero : limitOffset 0 0 t = 0 := by simp [limitOffset]
    rw [if_pos same]
    simp [zero]

/-! ## Lines -/

/-- The offsets of a range of lines; with null for its last line it goes on to the end. -/
def Text.lineSpanOf (t : Text) (first last : Json) : Except OperandError (Nat × Nat) :=
  match first.offset? with
  | none => .error (.notCombined ['-'] first.kind Json.wholeKind)
  | some offset => do
    let first ← offset.place
    let last ← last.bound
    return t.lineSpan first (last.getD t.lines.length)

/-- Whole numbers of lines select the lines that they name. -/
theorem Text.lineSpanOf_int (t : Text) (first last : Int) :
    t.lineSpanOf (.int first) (.int last) = .ok (t.lineSpan first last) := rfl

/-! ## Declarations -/

/-- An offset moved by a count of characters. -/
def Json.movedBy (j : Json) (count : Int) : Except OperandError Json :=
  match j with
  | .float x => .ok (.float (x + Float.ofInt count))
  | .string _ => .error (.notJoined j.kind Json.wholeKind)
  | .array _ => .error (.notJoined j.kind Json.wholeKind)
  | j =>
    match j.whole? with
    | some n => .ok (.int (n + count))
    | none => .error (.notCombined ['+'] j.kind Json.wholeKind)

/-- Where a text that begins at `start` ends, and where the token at its end begins. -/
def Declaration.offsetsOf (fullText token : Text) (start : Json) :
    Except OperandError (Json × Json) := do
  let stop ← start.movedBy fullText.length
  return (stop, ← stop.movedBy (-token.length))

/-- At a whole offset a declaration has its usual offsets. -/
theorem Declaration.offsetsOf_int (fullText token : Text) (start : Int) :
    offsetsOf fullText token (.int start) =
      .ok (.int (offsets fullText token start).1, .int (offsets fullText token start).2) := by
  simp [offsetsOf, Json.movedBy, Json.whole?, offsets, bind, Except.bind, pure, Except.pure,
    Int.sub_eq_add_neg]

/-! ## Edits -/

/-- An edit that is asked for. -/
structure EditRequest where
  start : Json
  stop : Json
  replacement : Json

/-- Why an edit that is asked for is refused. -/
inductive EditRequestError where
  /-- The offsets are out of order. -/
  | order (e : EditError)
  /-- A part is of a kind that cannot be used. -/
  | number (e : OperandError)
  deriving DecidableEq, Repr

/-- The message of a refusal. -/
def EditRequestError.message : EditRequestError → Text
  | .order e => e.message
  | .number e => e.message

namespace EditRequest

/-- Refuses an edit whose offsets are negative or out of order. -/
def check (r : EditRequest) : Except EditRequestError Unit :=
  match r.start.offset?, r.stop.offset? with
  | none, _ => .error (.number (.unordered ['<'] r.start.kind Json.wholeKind))
  | some start, stop =>
    if start.isBelow (.whole 0) then .error (.order (.negativeStart r.start.numberText))
    else match stop with
      | none => .error (.number (.unordered ['<'] r.stop.kind r.start.kind))
      | some stop =>
        if stop.isBelow start then
          .error (.order (.stopBeforeStart r.start.numberText r.stop.numberText))
        else .ok ()

/-- The edit that is asked for, if a text can be cut at its offsets. -/
def edit (r : EditRequest) : Except EditRequestError Edit :=
  match r.start.whole?, r.replacement, r.stop.whole? with
  | none, _, _ => .error (.number .noBound)
  | some start, .string replacement, some stop =>
    (Edit.make start stop replacement).mapError .order
  | some _, .string _, none => .error (.number .noBound)
  | some _, j, _ => .error (.number (.notJoined (Json.string []).kind j.kind))

/-- With whole offsets and a text, an edit that is asked for is made as usual. -/
theorem check_bind_edit (start stop : Int) (replacement : Text) :
    let r : EditRequest := ⟨.int start, .int stop, .string replacement⟩
    (r.check >>= fun _ => r.edit) = (Edit.make start stop replacement).mapError .order := by
  simp only [check, edit, Json.offset?, Json.whole?, Option.map_some, Offset.isBelow_whole,
    decide_eq_true_eq, Json.numberText, Edit.make]
  split
  · rfl
  · split <;> rfl

/-- The edits that are asked for: each is checked before any is made. -/
def edits (requests : List EditRequest) : Except EditRequestError (List Edit) := do
  requests.forM check
  requests.mapM edit

end EditRequest

end CssColor
