import CssColor.Text.Basic

/-!
# Lines

- `isLineEnd`: the characters that end a line; a carriage return followed by a
  line feed is one end.
- `Text.lines`: the lines of a text, each with its end, so that their
  concatenation is the text.
- `Text.lineSpan`: the offsets of a range of lines.
-/

namespace CssColor

/-- Line feed, vertical tab, form feed, carriage return, the separators U+001C to U+001E, next
line, line separator and paragraph separator end a line. -/
def isLineEnd (c : Char) : Bool :=
  (10 ≤ c.toNat && c.toNat ≤ 13) || (28 ≤ c.toNat && c.toNat ≤ 30) || c.toNat == 133
    || c.toNat == 8232 || c.toNat == 8233

namespace Text

/-- Whether a line ends between `c` and the text after it. -/
def endsLine (c : Char) (rest : Text) : Bool :=
  isLineEnd c && !(c == '\r' && rest.head? == some '\n')

/-- The lines of a text, each with the characters that end it. -/
def lines : Text → List Text
  | [] => []
  | c :: rest =>
    if endsLine c rest then [c] :: lines rest
    else match lines rest with
      | [] => [[c]]
      | line :: more => (c :: line) :: more

/-- The lines of a text, put together, are the text. -/
theorem flatten_lines (t : Text) : (lines t).flatten = t := by
  induction t with
  | nil => rfl
  | cons c rest ih =>
    unfold lines
    split
    · simp [ih]
    · split
      · next h => simpa [h] using ih
      · next h => simpa [h] using ih

/-- No line is empty. -/
theorem ne_nil_of_mem_lines {t line : Text} (h : line ∈ lines t) : line ≠ [] := by
  induction t generalizing line with
  | nil => simp [lines] at h
  | cons c rest ih =>
    unfold lines at h
    split at h
    · rcases List.mem_cons.mp h with rfl | h
      · simp
      · exact ih h
    · split at h
      · next hrest => simp_all
      · next first more hrest =>
        rcases List.mem_cons.mp h with rfl | h
        · simp
        · exact ih (hrest ▸ List.mem_cons_of_mem _ h)

/-- The offsets at which line `first` begins and line `last` ends, counted from one; lines past
the end are empty. A first line below one and a last line below zero are counted from the end. -/
def lineSpan (t : Text) (first last : Int) : Nat × Nat :=
  let before := firstItems t.lines (first - 1)
  let upTo := firstItems t.lines last
  let start := before.flatten.length
  (start, start + (upTo.drop before.length).flatten.length)

end Text

end CssColor
