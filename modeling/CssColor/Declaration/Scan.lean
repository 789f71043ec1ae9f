import CssColor.Declaration.Grammar

/-!
# Finding colour declarations

- `Declaration`: a property with its colour token, and where it stands.
- `Declaration.offsets`: where a declaration of given texts would stand.
- `Declaration.find`: the declarations of a text from left to right; each search
  goes on at the end of the declaration before.
-/

namespace CssColor

/-- A colour declaration: what stands before its token, the token, and the offset of the first
character. -/
structure Declaration where
  start : Nat
  lead : Text
  token : Text
  deriving DecidableEq, Repr

namespace Declaration

/-- The whole declaration. -/
def fullText (d : Declaration) : Text :=
  d.lead ++ d.token

/-- The offset of the token. -/
def tokenStart (d : Declaration) : Nat :=
  d.start + d.lead.length

/-- The offset behind the token. -/
def stop (d : Declaration) : Nat :=
  d.tokenStart + d.token.length

/-- Where a text that begins at `start` ends, and where the token at its end begins. -/
def offsets (fullText token : Text) (start : Int) : Int × Int :=
  let stop := start + fullText.length
  (stop, stop - token.length)

/-- The offsets of a declaration are those of its text and its token. -/
theorem offsets_fullText (d : Declaration) :
    offsets d.fullText d.token d.start = (↑d.stop, ↑d.tokenStart) := by
  simp only [offsets, fullText, stop, tokenStart, List.length_append, Prod.mk.injEq]
  omega

/-- The ways in which a declaration can stand at the start of a text: what is left from its token
on, and what is left behind it. -/
def choices (shapes : List Grammar.Shape) (t : Text) : List (Text × Text) :=
  (Grammar.lead t).flatMap fun fromToken =>
    ((Grammar.token shapes fromToken).filter Grammar.isTerminated).map fun rest =>
      (fromToken, rest)

/-- The declaration that stands at the start of a text at an offset, if one does: the first
choice. -/
def atStart? (shapes : List Grammar.Shape) (offset : Nat) (t : Text) : Option Declaration :=
  match choices shapes t with
  | [] => none
  | (fromToken, rest) :: _ =>
    some
      { start := offset
        lead := t.take (t.length - fromToken.length)
        token := fromToken.take (fromToken.length - rest.length) }

/-- The declarations of a text that begins at an offset, of which the first `covered` characters
belong to an earlier declaration. -/
def findFrom (shapes : List Grammar.Shape) : Nat → Nat → Text → List Declaration
  | _, _, [] => []
  | offset, covered + 1, _ :: t => findFrom shapes (offset + 1) covered t
  | offset, 0, c :: t =>
    match atStart? shapes offset (c :: t) with
    | some d => d :: findFrom shapes (offset + 1) (d.fullText.length - 1) t
    | none => findFrom shapes (offset + 1) 0 t

/-- The declarations of a text in a grammar of tokens, from left to right. -/
def findWith (shapes : List Grammar.Shape) (t : Text) : List Declaration :=
  findFrom shapes 0 0 t

/-- The colour declarations of a text, from left to right. -/
def find (t : Text) : List Declaration :=
  findWith Grammar.standard t

end Declaration

end CssColor
