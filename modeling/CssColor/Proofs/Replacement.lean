import Mathlib
import CssColor.Proofs.Conversion

/-!
# Replacing all ranges at once

Edits are applied one after another, to a text that changes on the way, and their
offsets are those of the text at first. Edits that do not overlap can be read in
another way: the text is cut at their ranges, and the gaps between these are put
together again with the replacements.

- `Edit.Separate`: two edits start at different places and do not overlap.
- `replaceAll`: the gaps of a text and the replacements in turn.
- `applyEdits_reverse`: edits that stand in order, applied from the last to the
  first. What stands before the last one that was applied is the text at first.
- `applyEdits_sortEdits`: **sorted edits replace all their ranges at once**, in
  whatever order they come; the length changes by what each of them adds.
-/

namespace CssColor

/-! ## Edits that do not overlap -/

namespace Edit

/-- An edit stands in front of another one, which may begin where it ends. -/
def Before (e e' : Edit) : Prop :=
  e.start < e'.start ∧ e.stop ≤ e'.start

/-- Two edits start at different places, and one ends before the other starts. -/
def Separate (e e' : Edit) : Prop :=
  e.Before e' ∨ e'.Before e

instance (e e' : Edit) : Decidable (e.Separate e') :=
  inferInstanceAs (Decidable (_ ∧ _ ∨ _ ∧ _))

theorem Separate.symm {e e' : Edit} (h : e.Separate e') : e'.Separate e :=
  Or.symm h

/-- How many characters an edit adds to a text. -/
def gain (e : Edit) : Int :=
  e.replacement.length - (e.stop - e.start)

end Edit

/-- The edits by ascending start. -/
def ascending (edits : List Edit) : List Edit :=
  edits.mergeSort fun a b => a.start ≤ b.start

variable {t : Text} {edits : List Edit}

theorem ascending_perm (edits : List Edit) : (ascending edits).Perm edits :=
  List.mergeSort_perm edits _

/-- Of edits that do not overlap each stands in front of all that start behind it. -/
theorem ascending_before (h : edits.Pairwise Edit.Separate) :
    (ascending edits).Pairwise Edit.Before := by
  have hsorted : (ascending edits).Pairwise fun e e' => decide (e.start ≤ e'.start) := by
    refine List.pairwise_mergeSort (fun a b c hab hbc => ?_) (fun a b => ?_) edits
    · simp only [decide_eq_true_eq] at hab hbc ⊢
      exact Nat.le_trans hab hbc
    · simp only [Bool.or_eq_true, decide_eq_true_eq]
      exact Nat.le_total a.start b.start
  have hseparate : (ascending edits).Pairwise Edit.Separate :=
    ((ascending_perm edits).pairwise_iff Edit.Separate.symm).mpr h
  refine (hsorted.and hseparate).imp fun {e e'} hboth => ?_
  rcases hboth.2 with hbefore | hbehind
  · exact hbefore
  · exact absurd hbehind.1 (Nat.not_lt_of_le (of_decide_eq_true hboth.1))

/-- Sorting puts them the other way round. -/
theorem sortEdits_eq_reverse_ascending (h : edits.Pairwise Edit.Separate) :
    sortEdits edits = (ascending edits).reverse := by
  refine sortEdits_eq_of_perm ((List.reverse_perm _).trans (ascending_perm edits)) ?_
  exact List.pairwise_reverse.mpr ((ascending_before h).imp And.left)

/-! ## Gaps and replacements -/

/-- What becomes of a text from an offset on: the gaps between the ranges of edits that stand in
order, and the replacements in turn. -/
def replaceFrom (t : Text) (offset : Nat) : List Edit → Text
  | [] => t.drop offset
  | e :: rest => t.slice offset e.start ++ e.replacement ++ replaceFrom t e.stop rest

/-- A text with all ranges of edits replaced at once. -/
def replaceAll (t : Text) (edits : List Edit) : Text :=
  replaceFrom t 0 (ascending edits)

/-- Ordered edits lie within a text, from an offset on. -/
inductive FitsFrom (t : Text) : Nat → List Edit → Prop where
  | nil {offset : Nat} (h : offset ≤ t.length) : FitsFrom t offset []
  | cons {offset : Nat} {e : Edit} {rest : List Edit} (h : offset ≤ e.start)
    (hrest : FitsFrom t e.stop rest) : FitsFrom t offset (e :: rest)

theorem FitsFrom.le_length {offset : Nat} (h : FitsFrom t offset edits) : offset ≤ t.length := by
  induction h with
  | nil h => exact h
  | @cons offset e rest h hrest ih => exact Nat.le_trans h (Nat.le_trans e.start_le_stop ih)

theorem fitsFrom_of_before {offset : Nat} (hoffset : offset ≤ t.length)
    (hstart : ∀ e ∈ edits, offset ≤ e.start) (hstop : ∀ e ∈ edits, e.stop ≤ t.length)
    (hbefore : edits.Pairwise Edit.Before) : FitsFrom t offset edits := by
  induction edits generalizing offset with
  | nil => exact .nil hoffset
  | cons e rest ih =>
    obtain ⟨hfirst, hrest⟩ := List.pairwise_cons.mp hbefore
    obtain ⟨hhere, -⟩ := List.forall_mem_cons.mp hstart
    obtain ⟨hend, hends⟩ := List.forall_mem_cons.mp hstop
    exact .cons hhere (ih hend (fun e' he' => (hfirst e' he').2) hends hrest)

/-- Separate edits within a text fit into it in their order. -/
theorem fitsFrom_ascending (hstop : ∀ e ∈ edits, e.stop ≤ t.length)
    (h : edits.Pairwise Edit.Separate) : FitsFrom t 0 (ascending edits) :=
  fitsFrom_of_before (Nat.zero_le _) (fun _ _ => Nat.zero_le _)
    (fun e he => hstop e ((ascending_perm edits).mem_iff.mp he)) (ascending_before h)

namespace Text

theorem take_append_slice (t : Text) {i j : Nat} (h : i ≤ j) :
    t.take i ++ t.slice i j = t.take j := by
  have htake : (t.take j).take i = t.take i := by rw [List.take_take, Nat.min_eq_left h]
  rw [slice, ← htake, List.take_append_drop]

theorem length_slice {t : Text} {i j : Nat} (h : j ≤ t.length) : (t.slice i j).length = j - i := by
  rw [slice, List.length_drop, List.length_take, Nat.min_eq_left h]

end Text

/-- **Induction from the first edit**: when all edits behind it have been applied, what stands before
them is still the text at first, so its own offsets are good. -/
theorem applyEdits_reverse_from {offset : Nat} (h : FitsFrom t offset edits) :
    applyEdits t edits.reverse = t.take offset ++ replaceFrom t offset edits := by
  induction h with
  | nil h => exact (List.take_append_drop _ t).symm
  | @cons offset e rest h hrest ih =>
    have hstart : e.start = (t.take e.start).length := by
      have hle := Nat.le_trans e.start_le_stop hrest.le_length
      rw [List.length_take, Nat.min_eq_left hle]
    have hstop : e.stop = (t.take e.start).length + (t.slice e.start e.stop).length := by
      rw [← hstart, Text.length_slice hrest.le_length, Nat.add_sub_cancel' e.start_le_stop]
    calc applyEdits t (e :: rest).reverse
        = e.apply (applyEdits t rest.reverse) := by
          rw [List.reverse_cons, applyEdits_append]
          rfl
      _ = e.apply (t.take e.start ++ t.slice e.start e.stop ++ replaceFrom t e.stop rest) := by
          rw [ih, Text.take_append_slice t e.start_le_stop]
      _ = t.take e.start ++ e.replacement ++ replaceFrom t e.stop rest :=
          Edit.apply_append hstart hstop
      _ = t.take offset ++ replaceFrom t offset (e :: rest) := by
          rw [← Text.take_append_slice t h, replaceFrom]
          simp only [List.append_assoc]

/-- Edits that stand in order, applied from the last to the first, replace their ranges at once. -/
theorem applyEdits_reverse (h : FitsFrom t 0 edits) :
    applyEdits t edits.reverse = replaceFrom t 0 edits :=
  applyEdits_reverse_from h

/-- Each edit changes the length by what it adds. -/
theorem length_replaceFrom {offset : Nat} (h : FitsFrom t offset edits) :
    ((replaceFrom t offset edits).length : Int) =
      t.length - offset + (edits.map Edit.gain).sum := by
  induction h with
  | @nil offset h =>
    rw [replaceFrom, List.length_drop, List.map_nil, List.sum_nil]
    omega
  | @cons offset e rest h hrest ih =>
    have hstop := hrest.le_length
    have hin := e.start_le_stop
    have hgap : (t.slice offset e.start).length = e.start - offset :=
      Text.length_slice (Nat.le_trans hin hstop)
    rw [replaceFrom, List.length_append, List.length_append, hgap, List.map_cons, List.sum_cons,
      Edit.gain]
    omega

/-- **Sorted edits replace all their ranges at once**: what they make of a text are the gaps between
the ranges with the replacements in turn. The order in which they come makes no difference, and the
text grows by what each of them adds. -/
theorem applyEdits_sortEdits (hstop : ∀ e ∈ edits, e.stop ≤ t.length)
    (hseparate : edits.Pairwise Edit.Separate) :
    applyEdits t (sortEdits edits) = replaceAll t edits ∧
      (∀ edits', edits'.Perm edits →
        applyEdits t (sortEdits edits') = applyEdits t (sortEdits edits)) ∧
      ((applyEdits t (sortEdits edits)).length : Int) =
        t.length + (edits.map fun e => (e.replacement.length : Int) - (e.stop - e.start)).sum := by
  have hfits := fitsFrom_ascending hstop hseparate
  have hall : applyEdits t (sortEdits edits) = replaceAll t edits := by
    rw [sortEdits_eq_reverse_ascending hseparate, applyEdits_reverse hfits, replaceAll]
  refine ⟨hall, fun edits' hperm => ?_, ?_⟩
  · -- both lists are sorted into the same one
    have hsame : sortEdits edits' = (ascending edits).reverse := by
      refine sortEdits_eq_of_perm
        ((List.reverse_perm _).trans ((ascending_perm edits).trans hperm.symm)) ?_
      exact List.pairwise_reverse.mpr ((ascending_before hseparate).imp And.left)
    rw [hsame, sortEdits_eq_reverse_ascending hseparate]
  · have hgain : ((ascending edits).map Edit.gain).sum = (edits.map Edit.gain).sum :=
      ((ascending_perm edits).map _).sum_eq
    have hlength := length_replaceFrom hfits
    rw [hgain, Int.natCast_zero, Int.sub_zero] at hlength
    rw [hall, replaceAll, hlength]
    rfl

/-- Three edits that touch each other: a range that goes, one that is replaced, and an insertion
right behind it. -/
def touchingEdits : List Edit :=
  [⟨3, 3, "XY".toList, by decide⟩, ⟨0, 1, [], by decide⟩, ⟨1, 3, "Q".toList, by decide⟩]

theorem applyEdits_sortEdits_touching :
    (∀ e ∈ touchingEdits, e.stop ≤ "abcdef".toList.length) ∧
      touchingEdits.Pairwise Edit.Separate ∧
      applyEdits "abcdef".toList (sortEdits touchingEdits) = "QXYdef".toList ∧
      replaceAll "abcdef".toList touchingEdits = "QXYdef".toList := by
  have hstop : ∀ e ∈ touchingEdits, e.stop ≤ "abcdef".toList.length := by decide
  have hseparate : touchingEdits.Pairwise Edit.Separate := by decide
  have happlied : applyEdits "abcdef".toList (sortEdits touchingEdits) = "QXYdef".toList := by cbv
  have hall := (applyEdits_sortEdits hstop hseparate).1
  exact ⟨hstop, hseparate, happlied, hall.symm.trans happlied⟩

end CssColor
