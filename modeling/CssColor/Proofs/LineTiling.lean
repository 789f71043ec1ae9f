import CssColor.Text.Line

/-!
# Lines tile a text

A range of lines begins where the line before it ends, and ends where its last
line does. So two ranges of which one follows the other meet, whatever characters
end the lines, and all that is left to know of a range is where lines end.

- `lineOffset`, `lineSpan_eq_offsets`: a span is told by the offsets at which its
  neighbours and its lines end.
- `CutsAt`, `exists_lineOffset_iff`: inside a text a line ends just where `lines`
  cuts it.
- `lineEnds`, `EndsLineAt`, `cutsAt_iff`: the same said of the characters on both
  sides of the offset.
- `lineSpan_tiles`: **spans of lines tile the text, and are cut at the ends of lines
  only**.
-/

namespace CssColor

namespace Text

/-! ## Where lines end -/

/-- The offset at which the first lines of a text end, as many as are counted; no lines are past
the end. -/
def lineOffset (t : Text) (count : Nat) : Nat :=
  (t.lines.take count).flatten.length

section Offsets

variable (t : Text)

@[simp] theorem lineOffset_zero : lineOffset t 0 = 0 := by
  rw [lineOffset, List.take_zero, List.flatten_nil, List.length_nil]

/-- All lines end where the text does. -/
theorem lineOffset_of_length_le {count : Nat} (h : t.lines.length ≤ count) :
    lineOffset t count = t.length := by
  rw [lineOffset, List.take_of_length_le h, flatten_lines]

/-- Lines begin where those before them end. -/
theorem lineOffset_eq_add {m n : Nat} (h : m ≤ n) :
    lineOffset t n = lineOffset t m + ((t.lines.take n).drop m).flatten.length := by
  have hsplit : t.lines.take m ++ (t.lines.take n).drop m = t.lines.take n := by
    rw [← Nat.min_eq_left h, ← List.take_take, Nat.min_eq_left h, List.take_append_drop]
  rw [lineOffset, lineOffset, ← List.length_append, ← List.flatten_append, hsplit]

theorem lineOffset_mono {m n : Nat} (h : m ≤ n) : lineOffset t m ≤ lineOffset t n := by
  rw [lineOffset_eq_add t h]
  exact Nat.le_add_right ..

theorem lineOffset_le_length (count : Nat) : lineOffset t count ≤ t.length := by
  rw [← lineOffset_of_length_le t (Nat.le_max_right count _)]
  exact lineOffset_mono t (Nat.le_max_left ..)

/-- **A span begins where the line before it ends, and ends where its last line does.** -/
theorem lineSpan_eq_offsets {first last : Int} (hfirst : 1 ≤ first) (hlast : first - 1 ≤ last) :
    t.lineSpan first last = (lineOffset t (first - 1).toNat, lineOffset t last.toNat) := by
  obtain ⟨m, hm⟩ := Int.eq_ofNat_of_zero_le (show 0 ≤ first - 1 by omega)
  obtain ⟨n, rfl⟩ := Int.eq_ofNat_of_zero_le (show 0 ≤ last by omega)
  have hle : m ≤ n := by omega
  have hitems : ∀ k : Nat, firstItems t.lines k = t.lines.take k := fun k => by
    rw [firstItems, if_neg (by omega), Int.toNat_natCast]
  -- past the end both counts leave nothing
  have hdrop : (t.lines.take n).drop (t.lines.take m).length = (t.lines.take n).drop m := by
    rw [List.length_take]
    rcases Nat.le_total m t.lines.length with hin | hpast
    · rw [Nat.min_eq_left hin]
    · have hlength : (t.lines.take n).length ≤ t.lines.length := List.length_take_le' ..
      rw [Nat.min_eq_right hpast, List.drop_of_length_le hlength,
        List.drop_of_length_le (Nat.le_trans hlength hpast)]
  rw [lineSpan, hm, hitems, hitems, hdrop, Int.toNat_natCast, Int.toNat_natCast,
    lineOffset_eq_add t hle]
  rfl

end Offsets

/-! ## Where a text is cut -/

/-- A text is cut at an offset: a line ends between the two characters there. -/
def CutsAt (t : Text) (offset : Nat) : Prop :=
  ∃ before c rest, t = before ++ c :: rest ∧ offset = before.length + 1 ∧ endsLine c rest = true

section Cuts

variable {c : Char} {rest : Text} {offset : Nat}

/-- A text is cut behind its first character if a line ends there. -/
theorem cutsAt_first : CutsAt (c :: rest) 1 ↔ endsLine c rest = true := by
  constructor
  · rintro ⟨before, d, more, hsplit, hoffset, hend⟩
    obtain rfl : before = [] := List.length_eq_zero_iff.mp (Nat.succ.inj hoffset).symm
    obtain ⟨rfl, rfl⟩ := List.cons.inj hsplit
    exact hend
  · intro hend
    exact ⟨[], c, rest, rfl, rfl, hend⟩

/-- Everywhere else its rest is cut. -/
theorem cutsAt_cons (hne : offset ≠ 0) : CutsAt (c :: rest) (offset + 1) ↔ CutsAt rest offset := by
  constructor
  · rintro ⟨before, d, more, hsplit, hoffset, hend⟩
    cases before with
    | nil => exact absurd (Nat.succ.inj hoffset) hne
    | cons b before =>
      exact ⟨before, d, more, (List.cons.inj hsplit).2, Nat.succ.inj hoffset, hend⟩
  · rintro ⟨before, d, more, rfl, rfl, hend⟩
    exact ⟨c :: before, d, more, rfl, rfl, hend⟩

/-- A character that ends a line is a line, and the lines of the rest follow. -/
theorem lineOffset_of_endsLine (h : endsLine c rest = true) (count : Nat) :
    lineOffset (c :: rest) (count + 1) = lineOffset rest count + 1 := by
  rw [lineOffset, lineOffset, lines, if_pos h, List.take_succ_cons, List.flatten_cons,
    List.length_append, Nat.add_comm]
  rfl

/-- Any other character belongs to the first line of the rest. -/
theorem lineOffset_of_not_endsLine (h : endsLine c rest = false) (hne : rest ≠ []) (count : Nat) :
    lineOffset (c :: rest) (count + 1) = lineOffset rest (count + 1) + 1 := by
  cases hlines : rest.lines with
  | nil =>
    have hnil := flatten_lines rest
    rw [hlines] at hnil
    exact absurd hnil.symm hne
  | cons line more =>
    rw [lineOffset, lineOffset, lines, if_neg (by rw [h]; decide), hlines, List.take_succ_cons,
      List.take_succ_cons, List.flatten_cons, List.flatten_cons, List.cons_append,
      List.length_cons]

/-- The first line of a text has a character. -/
theorem lineOffset_succ_pos {t : Text} (hne : t ≠ []) (count : Nat) :
    0 < lineOffset t (count + 1) := by
  cases hlines : t.lines with
  | nil =>
    have hnil := flatten_lines t
    rw [hlines] at hnil
    exact absurd hnil.symm hne
  | cons line more =>
    have hline : line ≠ [] := ne_nil_of_mem_lines (hlines ▸ List.mem_cons_self)
    have hpos := List.length_pos_iff.mpr hline
    rw [lineOffset, hlines, List.take_succ_cons, List.flatten_cons, List.length_append]
    omega

/-- **Inside a text a line ends just where the text is cut.** -/
theorem exists_lineOffset_iff {t : Text} (hpos : 0 < offset) (hlt : offset < t.length) :
    (∃ count, lineOffset t count = offset) ↔ CutsAt t offset := by
  induction t generalizing offset with
  | nil => exact absurd hlt (Nat.not_lt_zero _)
  | cons c rest ih =>
    obtain ⟨offset, rfl⟩ := Nat.exists_eq_succ_of_ne_zero (Nat.pos_iff_ne_zero.mp hpos)
    have hin : offset < rest.length := Nat.lt_of_succ_lt_succ hlt
    have hne : rest ≠ [] := List.length_pos_iff.mp (Nat.zero_lt_of_lt hin)
    -- the offset is reached by some lines, of which the first holds the first character
    have hcount : (∃ count, lineOffset (c :: rest) count = offset + 1) ↔
        ∃ count, lineOffset (c :: rest) (count + 1) = offset + 1 := by
      constructor
      · rintro ⟨_ | count, h⟩
        · rw [lineOffset_zero] at h
          cases h
        · exact ⟨count, h⟩
      · rintro ⟨count, h⟩
        exact ⟨count + 1, h⟩
    rw [Nat.succ_eq_add_one, hcount]
    cases hend : endsLine c rest with
    | true =>
      simp only [lineOffset_of_endsLine hend, Nat.add_right_cancel_iff]
      by_cases hfirst : offset = 0
      · subst hfirst
        exact iff_of_true ⟨0, lineOffset_zero rest⟩ (cutsAt_first.mpr hend)
      · rw [cutsAt_cons hfirst, ih (Nat.pos_iff_ne_zero.mpr hfirst) hin]
    | false =>
      simp only [lineOffset_of_not_endsLine hend hne, Nat.add_right_cancel_iff]
      by_cases hfirst : offset = 0
      · subst hfirst
        refine iff_of_false ?_ ?_
        · rintro ⟨count, h⟩
          exact absurd h (Nat.pos_iff_ne_zero.mp (lineOffset_succ_pos hne count))
        · rw [Nat.zero_add, cutsAt_first, hend]
          decide
      · rw [cutsAt_cons hfirst, ← ih (Nat.pos_iff_ne_zero.mpr hfirst) hin]
        constructor
        · rintro ⟨count, h⟩
          exact ⟨count + 1, h⟩
        · rintro ⟨_ | count, h⟩
          · rw [lineOffset_zero] at h
            exact absurd h.symm hfirst
          · exact ⟨count, h⟩

end Cuts

/-! ## What ends a line -/

/-- What ends a line: line feed, carriage return, the two of them together, vertical tab, form feed,
the separators of files, groups and records, next line, line separator and paragraph separator. -/
def lineEnds : List Text :=
  [['\n'], ['\r'], ['\r', '\n'], ['\x0b'], ['\x0c'], ['\x1c'], ['\x1d'], ['\x1e'], ['\u0085'],
   ['\u2028'], ['\u2029']]

/-- An offset is right behind an end of a line, and not between a carriage return and a line
feed. -/
structure EndsLineAt (t : Text) (offset : Nat) : Prop where
  behind : ∃ before mark rest, mark ∈ lineEnds ∧ t = before ++ (mark ++ rest) ∧
    offset = (before ++ mark).length
  whole : ∀ before rest, t = before ++ '\r' :: '\n' :: rest → offset ≠ before.length + 1

/-- One character ends a line if it is among these ends. -/
theorem isLineEnd_iff {c : Char} : isLineEnd c = true ↔ [c] ∈ lineEnds := by
  have hcode : ∀ d : Char, c = d ↔ c.toNat = d.toNat := fun d => Char.toNat_inj.symm
  simp only [isLineEnd, lineEnds, List.mem_cons, List.cons.injEq, and_true, List.not_mem_nil,
    or_false, hcode, Bool.or_eq_true, Bool.and_eq_true, decide_eq_true_eq, beq_iff_eq,
    Char.reduceToNat, List.ne_cons_self, and_false, false_or]
  omega

/-- Every end of a line ends in a character that is one. -/
theorem exists_of_mem_lineEnds {mark : Text} (h : mark ∈ lineEnds) :
    ∃ front c, mark = front ++ [c] ∧ isLineEnd c = true := by
  have hall : ∀ mark ∈ lineEnds, mark ≠ [] ∧ mark.getLast?.all isLineEnd = true := by
    decide +kernel
  obtain ⟨hne, hlast⟩ := hall mark h
  refine ⟨mark.dropLast, mark.getLast hne, (List.dropLast_concat_getLast hne).symm, ?_⟩
  rwa [List.getLast?_eq_some_getLast hne] at hlast

theorem endsLine_iff {c : Char} {rest : Text} :
    endsLine c rest = true ↔ isLineEnd c = true ∧ ¬ (c = '\r' ∧ rest.head? = some '\n') := by
  rw [endsLine, Bool.and_eq_true, Bool.not_eq_true', Bool.and_eq_false_iff, beq_eq_false_iff_ne,
    beq_eq_false_iff_ne, Decidable.not_and_iff_not_or_not]

/-- **A text is cut just behind the ends of its lines.** -/
theorem cutsAt_iff {t : Text} {offset : Nat} : CutsAt t offset ↔ EndsLineAt t offset := by
  constructor
  · rintro ⟨before, c, rest, rfl, rfl, hend⟩
    obtain ⟨hmark, hwhole⟩ := endsLine_iff.mp hend
    have hoffset : before.length + 1 = (before ++ [c]).length := by
      rw [List.length_append, List.length_singleton]
    refine ⟨⟨before, [c], rest, isLineEnd_iff.mp hmark, rfl, hoffset⟩, ?_⟩
    intro before' rest' hsplit hoffset
    obtain ⟨-, htail⟩ := List.append_inj hsplit (Nat.succ.inj hoffset)
    obtain ⟨rfl, rfl⟩ := List.cons.inj htail
    exact hwhole ⟨rfl, rfl⟩
  · rintro ⟨⟨before, mark, rest, hmark, rfl, rfl⟩, hwhole⟩
    obtain ⟨front, c, rfl, hc⟩ := exists_of_mem_lineEnds hmark
    have hsplit : before ++ (front ++ [c] ++ rest) = (before ++ front) ++ c :: rest := by
      simp only [List.append_assoc, List.singleton_append]
    have hoffset : (before ++ (front ++ [c])).length = (before ++ front).length + 1 := by
      rw [← List.append_assoc, List.length_append, List.length_singleton]
    refine ⟨before ++ front, c, rest, hsplit, hoffset, endsLine_iff.mpr ⟨hc, ?_⟩⟩
    rintro ⟨rfl, hnext⟩
    obtain ⟨more, rfl⟩ := List.head?_eq_some_iff.mp hnext
    exact hwhole _ more hsplit hoffset

/-! ## Spans -/

/-- A span of lines starts or stops at an offset. -/
def IsSpanEnd (t : Text) (offset : Nat) : Prop :=
  ∃ first last : Int, 1 ≤ first ∧ first ≤ last ∧
    (offset = (t.lineSpan first last).1 ∨ offset = (t.lineSpan first last).2)

/-- Behind the start of a text, spans start and stop where lines end. -/
theorem isSpanEnd_iff {t : Text} {offset : Nat} (hpos : 0 < offset) :
    IsSpanEnd t offset ↔ ∃ count, lineOffset t count = offset := by
  constructor
  · rintro ⟨first, last, hfirst, hlast, hoffset⟩
    rw [lineSpan_eq_offsets t hfirst (by omega)] at hoffset
    rcases hoffset with rfl | rfl
    · exact ⟨_, rfl⟩
    · exact ⟨_, rfl⟩
  · rintro ⟨_ | count, rfl⟩
    · rw [lineOffset_zero] at hpos
      exact absurd hpos (Nat.lt_irrefl 0)
    · refine ⟨1, (count + 1 : Nat), Int.le_refl 1, by omega, Or.inr ?_⟩
      rw [lineSpan_eq_offsets t (Int.le_refl 1) (by omega), Int.toNat_natCast]

/-- **Spans of lines tile the text.** Of two ranges the second of which follows the first, the spans
meet, and together they are the span of both. The first lines, if they are all there are, are the
whole text. Inside the text a span starts or stops at an offset just if a line ends there, and so
never between a carriage return and its line feed. -/
theorem lineSpan_tiles (t : Text) :
    (∀ a b c : Int, 1 ≤ a → a ≤ b → b < c →
      ∃ start middle stop : Nat, t.lineSpan a b = (start, middle) ∧
        t.lineSpan (b + 1) c = (middle, stop) ∧ t.lineSpan a c = (start, stop) ∧
        start ≤ middle ∧ middle ≤ stop ∧ stop ≤ t.length) ∧
      (∀ last : Int, t.lines.length ≤ last → t.lineSpan 1 last = (0, t.length)) ∧
      ∀ offset, 0 < offset → offset < t.length → (IsSpanEnd t offset ↔ EndsLineAt t offset) := by
  refine ⟨fun a b c ha hb hc => ?_, fun last hlast => ?_, fun offset hpos hlt => ?_⟩
  · have hmeet : (b + 1 - 1).toNat = b.toNat := by rw [Int.add_sub_cancel]
    refine ⟨lineOffset t (a - 1).toNat, lineOffset t b.toNat, lineOffset t c.toNat,
      lineSpan_eq_offsets t ha (by omega), ?_, lineSpan_eq_offsets t ha (by omega),
      lineOffset_mono t (by omega), lineOffset_mono t (by omega),
      lineOffset_le_length t _⟩
    rw [lineSpan_eq_offsets t (by omega) (by omega), hmeet]
  · have hall : t.lines.length ≤ last.toNat := by omega
    rw [lineSpan_eq_offsets t (Int.le_refl 1) (by omega), lineOffset_of_length_le t hall]
    exact congrArg (·, t.length) (lineOffset_zero t)
  · rw [isSpanEnd_iff hpos, exists_lineOffset_iff hpos hlt, cutsAt_iff]

/-- Three lines, of which the first ends in two characters. -/
theorem lineSpan_tiles_mixed :
    ((1 : Int) ≤ 1 ∧ (1 : Int) < 3 ∧
      ∃ start middle stop : Nat, Text.lineSpan "a\r\nb\u2028c".toList 1 1 = (start, middle) ∧
        Text.lineSpan "a\r\nb\u2028c".toList (1 + 1) 3 = (middle, stop) ∧
        Text.lineSpan "a\r\nb\u2028c".toList 1 3 = (start, stop) ∧
        start ≤ middle ∧ middle ≤ stop ∧ stop ≤ "a\r\nb\u2028c".toList.length) ∧
      ((Text.lines "a\r\nb\u2028c".toList).length : Int) ≤ 3 ∧
      Text.lineSpan "a\r\nb\u2028c".toList 1 3 = (0, 6) ∧
      IsSpanEnd "a\r\nb\u2028c".toList 3 ∧ ¬ IsSpanEnd "a\r\nb\u2028c".toList 2 := by
  obtain ⟨hmeet, hall, hends⟩ := lineSpan_tiles "a\r\nb\u2028c".toList
  have hlines : ((Text.lines "a\r\nb\u2028c".toList).length : Int) ≤ 3 := by decide +kernel
  have hbehind : EndsLineAt "a\r\nb\u2028c".toList 3 :=
    cutsAt_iff.mp ⟨['a', '\r'], '\n', ['b', '\u2028', 'c'], rfl, rfl, rfl⟩
  exact ⟨⟨Int.le_refl 1, by decide, hmeet 1 1 3 (by decide) (by decide) (by decide)⟩, hlines,
    hall 3 hlines, (hends 3 (by decide) (by decide)).mpr hbehind,
    fun h => ((hends 2 (by decide) (by decide)).mp h).whole ['a'] ['b', '\u2028', 'c'] rfl rfl⟩

end Text

end CssColor
