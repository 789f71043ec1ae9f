import CssColor.Alpha
import CssColor.Declaration.Scan
import CssColor.Edit
import CssColor.Rendering
import CssColor.Result

/-!
# Converting texts

- `Attempt`: a declaration with what came of its token.
- `convertWith`: the conversion of a text by any conversion of tokens.
- `ColorLibrary.convert`, `convert`: the conversion of a text under options, with
  any colour library and with the one of this development.
- `convertRegion`: the same for a part of a text.
- `writesNumbers`: whether a conversion writes a number with decimal places.

A token that fails is kept in the text and listed in the result.
-/

namespace CssColor

/-- What a token becomes, or why it stays. -/
abbrev TokenConverter := Text → Except TokenError Text

/-- A declaration and what came of its token. -/
structure Attempt where
  declaration : Declaration
  outcome : Except TokenError Text

namespace Attempt

/-- The edit that rewrites a declaration with its token converted. -/
def edit? (a : Attempt) : Option Edit :=
  match a.outcome with
  | .ok converted =>
    some
      { start := a.declaration.start
        stop := a.declaration.stop
        replacement := a.declaration.lead ++ converted
        start_le_stop := by simp only [Declaration.stop, Declaration.tokenStart]; omega }
  | .error _ => none

/-- The token, if it failed. -/
def failedToken? (a : Attempt) : Option Text :=
  match a.outcome with
  | .ok _ => none
  | .error _ => some a.declaration.token

end Attempt

/-- The declarations of a text, each with its token converted. -/
def attempts (f : TokenConverter) (t : Text) : List Attempt :=
  (Declaration.find t).map fun d => ⟨d, f d.token⟩

/-- The conversion of a text by a conversion of tokens. -/
def convertWith (f : TokenConverter) (t : Text) : Result :=
  let tried := attempts f t
  let edits := tried.filterMap Attempt.edit?
  { output := applyEdits t (sortEdits edits)
    editsApplied := edits.length
    errorColors := tried.filterMap Attempt.failedToken? }

/-- The conversion of a token with a colour library: whether it spelled out its alpha is read off
the token. -/
def ColorLibrary.convertToken (l : ColorLibrary) (o : Options) : TokenConverter := fun token =>
  match l.read? token with
  | none => .error (.unparseable token)
  | some color => l.render color (o.withExplicitAlpha (hasExplicitAlpha token))

/-- The conversion of a text under options, with a colour library. -/
def ColorLibrary.convert (l : ColorLibrary) (o : Options) (t : Text) : Result :=
  convertWith (l.convertToken o) t

/-- The conversion of a token. -/
def convertToken (o : Options) : TokenConverter :=
  ColorLibrary.own.convertToken o

/-- The conversion of a text under options. -/
def convert (o : Options) (t : Text) : Result :=
  ColorLibrary.own.convert o t

/-- An offset limited to the range from `low` to the length of a text. -/
def limitOffset (low : Nat) (offset : Int) (t : Text) : Nat :=
  max low (min offset.toNat t.length)

/-- A limited offset is not below its limit. -/
theorem le_limitOffset (low : Nat) (offset : Int) (t : Text) : low ≤ limitOffset low offset t :=
  Nat.le_max_left ..

/-- The conversion of the part of a text between two offsets, by any conversion of texts, put in the
place of that part. Offsets are limited to the text; an empty part means the whole text. -/
def convertPart (whole : Text → Result) (t : Text) (start stop : Int) : Result :=
  let first := limitOffset 0 start t
  let last := limitOffset first stop t
  if first = last then whole t
  else
    let part := whole (t.slice first last)
    if part.changed then
      let edit : Edit := ⟨first, last, part.output, le_limitOffset first stop t⟩
      { part with output := applyEdits t [edit] }
    else { output := t, errorColors := part.errorColors }

/-- The edit of a part leaves what stands before it and behind it. -/
theorem convertPart_eq (whole : Text → Result) (t : Text) (start stop : Int) :
    convertPart whole t start stop =
      let first := limitOffset 0 start t
      let last := limitOffset first stop t
      let part := whole (t.slice first last)
      if first = last then whole t
      else if part.changed then
        { part with output := t.take first ++ part.output ++ t.drop last }
      else { output := t, errorColors := part.errorColors } := rfl

/-- The conversion of the part of a text between two offsets under options, with a colour
library. -/
def ColorLibrary.convertRegion (l : ColorLibrary) (o : Options) (t : Text) (start stop : Int) :
    Result :=
  convertPart (l.convert o) t start stop

/-- The conversion of the part of a text between two offsets under options. -/
def convertRegion (o : Options) (t : Text) (start stop : Int) : Result :=
  ColorLibrary.own.convertRegion o t start stop

/-- The part of a text between two offsets, as it is converted. -/
def selectedRegion (t : Text) (start stop : Int) : Text :=
  let first := limitOffset 0 start t
  let last := limitOffset first stop t
  if first = last then t else t.slice first last

/-- Whether the conversion of a text writes a number with decimal places. -/
def writesNumbers (o : Options) (t : Text) : Bool :=
  (Declaration.find t).any fun d =>
    match Color.read? d.token with
    | none => false
    | some color => color.writesNumbers (o.withExplicitAlpha (hasExplicitAlpha d.token))

end CssColor
