import CssColor.CommandLine.Run
import CssColor.Proofs.LineTiling
import CssColor.Proofs.Region

/-!
# Selected lines

A range of lines becomes a part of the text, and an empty part would mean the
whole text. So a range past the end has to be told from the others before the
part is converted: no line is empty, and a range that selects a line selects some
of its characters.

- `Text.lines_split`: a text as the lines before, in and behind a range.
- `Text.linesIn_eq_nil_iff`: only a range past the end holds no character.
- `Text.lineSpan_eq`: the offsets of a range are those of its lines.
- `convertLines_selects`: **the selected lines become their conversion, and no
  others are touched**.
-/

namespace CssColor

namespace Text

/-! ## Lines of a range -/

/-- The lines before a range, joined. -/
def linesBefore (r : LineRange) (t : Text) : Text :=
  (t.lines.take (r.first - 1)).flatten

/-- The lines in a range, joined; what is past the end counts as no lines. -/
def linesIn (r : LineRange) (t : Text) : Text :=
  ((t.lines.take r.last).drop (r.first - 1)).flatten

/-- The lines behind a range, joined. -/
def linesBehind (r : LineRange) (t : Text) : Text :=
  (t.lines.drop r.last).flatten

variable (r : LineRange) (t : Text)

/-- A text is the lines before a range, those in it and those behind it. -/
theorem lines_split : t = linesBefore r t ++ (linesIn r t ++ linesBehind r t) := by
  have hfirst := r.one_le_first
  have hle := r.first_le_last
  have hbefore : t.lines.take (r.first - 1) = (t.lines.take r.last).take (r.first - 1) := by
    rw [List.take_take, Nat.min_eq_left (by omega)]
  rw [linesBefore, linesIn, linesBehind, hbefore, ← List.append_assoc, ← List.flatten_append,
    List.take_append_drop, ← List.flatten_append, List.take_append_drop, flatten_lines]

/-- Only a range past the end holds no character. -/
theorem linesIn_eq_nil_iff : linesIn r t = [] ↔ t.lines.length < r.first := by
  have hfirst := r.one_le_first
  have hle := r.first_le_last
  have hnone : ((t.lines.take r.last).drop (r.first - 1)) = [] ↔ t.lines.length < r.first := by
    rw [List.drop_eq_nil_iff, List.length_take]
    omega
  rw [linesIn, List.flatten_eq_nil_iff, ← hnone]
  constructor
  · intro hempty
    rw [List.eq_nil_iff_forall_not_mem]
    intro line hline
    exact ne_nil_of_mem_lines (List.mem_of_mem_take (List.mem_of_mem_drop hline)) (hempty line hline)
  · intro hnil
    rw [hnil]
    exact List.forall_mem_nil _

/-- **The offsets of a range are those of its lines.** -/
theorem lineSpan_eq :
    t.lineSpan r.first r.last =
      ((linesBefore r t).length, (linesBefore r t).length + (linesIn r t).length) := by
  have hfirst := r.one_le_first
  have hle := r.first_le_last
  have hbefore : ((r.first : Int) - 1).toNat = r.first - 1 := by omega
  rw [lineSpan_eq_offsets t (by omega) (by omega), hbefore, Int.toNat_natCast,
    lineOffset_eq_add t (show r.first - 1 ≤ r.last by omega)]
  rfl

end Text

/-! ## Conversion -/

open Text

/-- **The selected lines become their conversion, and no others are touched**, with every colour
library. Past the end nothing is selected and nothing converted; a range of all lines is the whole
text. -/
theorem convertLines_selects (l : ColorLibrary) (o : Options) (r : LineRange) (t : Text) :
    (l.convertLines o (some r) t =
      if t.lines.length < r.first then { output := t }
      else { l.convert o (linesIn r t) with
        output := linesBefore r t ++ (l.convert o (linesIn r t)).output ++ linesBehind r t }) ∧
      (r.first = 1 → t.lines.length ≤ r.last → l.convertLines o (some r) t = l.convert o t) := by
  have hselects : l.convertLines o (some r) t =
      if t.lines.length < r.first then { output := t }
      else { l.convert o (linesIn r t) with
        output := linesBefore r t ++ (l.convert o (linesIn r t)).output ++ linesBehind r t } := by
    rw [ColorLibrary.convertLines, lineSpan_eq]
    dsimp only
    by_cases hpast : t.lines.length < r.first
    · have hempty := (linesIn_eq_nil_iff r t).mpr hpast
      rw [if_pos hpast, hempty, List.length_nil, Nat.add_zero, if_pos rfl]
    · have hsome := mt (linesIn_eq_nil_iff r t).mp hpast
      have hpos := List.length_pos_iff.mpr hsome
      have hregion := convertRegion_middle l o (linesBefore r t) (linesIn r t) (linesBehind r t)
        hsome
      rw [← lines_split r t, ← List.append_assoc] at hregion
      rw [if_neg hpast, if_neg (by omega), Int.natCast_add, hregion]
  refine ⟨hselects, fun hfirst hlast => ?_⟩
  rw [hselects]
  by_cases hpast : t.lines.length < r.first
  · -- only the empty text has no line
    have hnone : t.lines = [] := List.length_eq_zero_iff.mp (by omega)
    have hnil : t = [] := by rw [← flatten_lines t, hnone, List.flatten_nil]
    rw [if_pos hpast, hnil, ColorLibrary.convert, convertWith_nil, Result.unchanged]
  · have hbefore : linesBefore r t = [] := by
      rw [linesBefore, hfirst, Nat.sub_self, List.take_zero, List.flatten_nil]
    have hbehind : linesBehind r t = [] := by
      rw [linesBehind, List.drop_of_length_le hlast, List.flatten_nil]
    have hwhole : linesIn r t = t := by
      have hsplit := lines_split r t
      rw [hbefore, hbehind, List.nil_append, List.append_nil] at hsplit
      exact hsplit.symm
    rw [if_neg hpast, hbefore, hbehind, hwhole, List.nil_append, List.append_nil]

/-- Two lines, both of them selected. -/
theorem convertLines_selects_both :
    LineRange.first ⟨1, 9, by decide, by decide⟩ = 1 ∧
      (Text.lines "fill:#000;\r\ncolor:#fff;".toList).length ≤
        LineRange.last ⟨1, 9, by decide, by decide⟩ ∧
      ColorLibrary.own.convertLines ⟨.rgb, 2, true, false⟩ (some ⟨1, 9, by decide, by decide⟩)
          "fill:#000;\r\ncolor:#fff;".toList =
        ColorLibrary.own.convert ⟨.rgb, 2, true, false⟩ "fill:#000;\r\ncolor:#fff;".toList := by
  have hlines : (Text.lines "fill:#000;\r\ncolor:#fff;".toList).length ≤ 9 := by decide +kernel
  exact ⟨rfl, hlines, (convertLines_selects .own ⟨.rgb, 2, true, false⟩ ⟨1, 9, by decide, by decide⟩
    "fill:#000;\r\ncolor:#fff;".toList).2 rfl hlines⟩

end CssColor
