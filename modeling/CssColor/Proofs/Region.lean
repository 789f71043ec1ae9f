import CssColor.Proofs.Conversion

/-!
# Parts of a text

A part of a text is converted as a text of its own, and what comes of it is put
in the place of the part. Any whole numbers select a part: they are limited to
the text one after the other, and an empty part means the whole text.

- `limitOffset_eq`: the limits of an offset, as of any whole number.
- `convertRegion_eq`: a part that is not empty becomes its own conversion,
  whether something in it is rewritten or not.
- `convertRegion_splices`: **the conversion of a part for all offsets**. The edit
  that puts it in its place is never refused, and keeps all that is outside.
-/

namespace CssColor

/-- A conversion without edits keeps its text. -/
theorem convertWith_of_not_changed (f : TokenConverter) {t : Text}
    (h : (convertWith f t).changed = false) :
    convertWith f t = { output := t, errorColors := (convertWith f t).errorColors } := by
  rw [Result.changed, decide_eq_false_iff_not, convertWith_eq] at h
  have hnone : editsOf f t = [] := by
    rw [← List.length_eq_zero_iff]
    change ¬ 0 < ((editsOf f t).length : Int) at h
    omega
  rw [convertWith_eq, hnone]
  rfl

/-- A limited offset is the offset, or the limit that it passes. -/
theorem limitOffset_eq {low : Nat} {t : Text} (hlow : low ≤ t.length) (offset : Int) :
    (limitOffset low offset t : Int) = max (low : Int) (min offset (t.length : Int)) := by
  rw [limitOffset]
  omega

theorem limitOffset_le {low : Nat} {t : Text} (hlow : low ≤ t.length) (offset : Int) :
    limitOffset low offset t ≤ t.length := by
  rw [limitOffset]
  omega

/-- **What a part becomes is its conversion in its place.** A part without edits is left as it is,
which is what its conversion gives. -/
theorem convertRegion_eq (l : ColorLibrary) (o : Options) (t : Text) (start stop : Int) :
    l.convertRegion o t start stop =
      let first := limitOffset 0 start t
      let last := limitOffset first stop t
      let part := l.convert o (t.slice first last)
      if first = last then l.convert o t
      else { part with output := t.take first ++ part.output ++ t.drop last } := by
  rw [ColorLibrary.convertRegion, convertPart_eq]
  dsimp only
  have hfirst : limitOffset 0 start t ≤ t.length := limitOffset_le (Nat.zero_le _) start
  have hlast := limitOffset_le hfirst stop
  have hle := le_limitOffset (limitOffset 0 start t) stop t
  generalize limitOffset 0 start t = first at *
  generalize limitOffset first stop t = last at *
  by_cases hempty : first = last
  · rw [if_pos hempty, if_pos hempty]
  · rw [if_neg hempty, if_neg hempty]
    by_cases hchanged : (l.convert o (t.slice first last)).changed = true
    · rw [if_pos hchanged]
    · -- the text itself is the part, unconverted, in its place
      have hsame := convertWith_of_not_changed (l.convertToken o) (Bool.eq_false_iff.mpr hchanged)
      have houtput : (l.convert o (t.slice first last)).output = t.slice first last :=
        congrArg Result.output hsame
      have hedits : (l.convert o (t.slice first last)).editsApplied = 0 :=
        congrArg Result.editsApplied hsame
      have hwhole : t.take first ++ t.slice first last ++ t.drop last = t := by
        rw [List.append_assoc, Text.slice_append_drop t hle hlast, List.take_append_drop]
      rw [if_neg hchanged, houtput, hedits, hwhole]

/-- The conversion of a part of a text is the conversion of that part in its place. -/
theorem convertRegion_middle (l : ColorLibrary) (o : Options) (before middle after : Text)
    (hne : middle ≠ []) :
    l.convertRegion o (before ++ (middle ++ after)) before.length
        (before.length + middle.length) =
      { l.convert o middle with output := before ++ ((l.convert o middle).output ++ after) } := by
  have hpos := List.length_pos_iff.mpr hne
  have hlength : (before ++ (middle ++ after)).length =
      before.length + middle.length + after.length := by
    rw [List.length_append, List.length_append, Nat.add_assoc]
  have hfirst : limitOffset 0 before.length (before ++ (middle ++ after)) = before.length := by
    rw [limitOffset, hlength]
    omega
  have hlast : limitOffset before.length (before.length + middle.length)
      (before ++ (middle ++ after)) = before.length + middle.length := by
    rw [limitOffset, hlength]
    omega
  have hdrop : (before ++ (middle ++ after)).drop (before.length + middle.length) = after := by
    rw [← List.append_assoc, ← List.length_append, List.drop_left]
  rw [convertRegion_eq]
  dsimp only
  rw [hfirst, hlast, if_neg (by omega), hdrop, Text.slice_append, List.take_left, List.append_assoc]

/-- **The conversion of a part of a text, for all offsets** and with every colour library. The
offsets are limited to the text, the second one behind the first. An empty part means the whole
text. Any other part is converted as a text of its own: its edit is never refused, it keeps what
stands before and behind, and where nothing in the part is rewritten, the text stays as it is. -/
theorem convertRegion_splices (l : ColorLibrary) (o : Options) (t : Text) (start stop : Int) :
    ∃ first last : Nat,
      (first : Int) = max 0 (min start (t.length : Int)) ∧
      (last : Int) = max (first : Int) (min stop (t.length : Int)) ∧
      (first = last → l.convertRegion o t start stop = l.convert o t) ∧
      (first ≠ last →
        let part := l.convert o (t.slice first last)
        l.convertRegion o t start stop =
            { part with output := t.take first ++ part.output ++ t.drop last } ∧
          (part.changed = false → (l.convertRegion o t start stop).output = t) ∧
          ∃ edit, Edit.make first last part.output = .ok edit ∧
            (l.convertRegion o t start stop).output = applyEdits t [edit]) := by
  have hfirst : limitOffset 0 start t ≤ t.length := limitOffset_le (Nat.zero_le _) start
  refine ⟨limitOffset 0 start t, limitOffset (limitOffset 0 start t) stop t,
    limitOffset_eq (Nat.zero_le _) start, limitOffset_eq hfirst stop, ?_, ?_⟩
  · intro hempty
    rw [convertRegion_eq]
    exact if_pos hempty
  · intro hsome
    have hregion := convertRegion_eq l o t start stop
    dsimp only at hregion
    rw [if_neg hsome] at hregion
    refine ⟨hregion, ?_, ?_⟩
    · intro hsame
      rw [ColorLibrary.convertRegion, convertPart_eq]
      dsimp only
      rw [if_neg hsome, if_neg (by rw [hsame]; decide)]
    · have hle := le_limitOffset (limitOffset 0 start t) stop t
      refine ⟨⟨_, _, _, hle⟩, ?_, congrArg Result.output hregion⟩
      rw [Edit.make, dif_neg (by omega), dif_neg (by omega)]
      rfl

end CssColor
