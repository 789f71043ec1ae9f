import CssColor.Declaration.Grammar
import CssColor.Proofs.Character

/-!
# The words of the grammar

- `mem_tokenNames`: the order in which the colour words are tried is all that
  sorting them changes.
- `IsColorName`, `IsFunctionName`: the words in any letter case.
- `IsColorName.not_isFunctionName`: no word is both. A word of letters is
  therefore a name or the start of a call, never a choice between the two.
-/

namespace CssColor

namespace Grammar

theorem mem_tokenNames {w : Text} : w ∈ tokenNames ↔ w ∈ colorWords :=
  List.mem_mergeSort

/-- A colour name in any letter case. -/
def IsColorName (w : Text) : Prop :=
  w.map Char.toLower ∈ colorWords

/-- The name of a colour function in any letter case. -/
def IsFunctionName (w : Text) : Prop :=
  w.map Char.toLower ∈ functionNames

instance (w : Text) : Decidable (IsColorName w) :=
  inferInstanceAs (Decidable (_ ∈ _))

instance (w : Text) : Decidable (IsFunctionName w) :=
  inferInstanceAs (Decidable (_ ∈ _))

/-- A word of letters. -/
def isWord (w : Text) : Bool :=
  !w.isEmpty && w.all isAsciiLetter

theorem isWord_iff {w : Text} : isWord w = true ↔ w ≠ [] ∧ ∀ c ∈ w, isAsciiLetter c = true := by
  rw [isWord, Bool.and_eq_true, Bool.not_eq_true', List.isEmpty_eq_false_iff, List.all_eq_true]

/-- The colour names are words of letters, and none of them is a function. -/
theorem colorWords_spelling :
    ∀ w ∈ colorWords, (w ≠ [] ∧ ∀ c ∈ w, isAsciiLetter c = true) ∧ w ∉ functionNames := by
  have hall : colorWords.all (fun w => isWord w && !functionNames.contains w) = true := by
    decide +kernel
  intro w hw
  have hone := List.all_eq_true.mp hall w hw
  rw [Bool.and_eq_true, isWord_iff, Bool.not_eq_true'] at hone
  refine ⟨hone.1, fun hmem => ?_⟩
  rw [List.contains_iff_mem.mpr hmem] at hone
  cases hone.2

/-- The function names are words of letters. -/
theorem functionNames_spelling :
    ∀ w ∈ functionNames, w ≠ [] ∧ ∀ c ∈ w, isAsciiLetter c = true := by
  have hall : functionNames.all isWord = true := by
    decide +kernel
  exact fun w hw => isWord_iff.mp (List.all_eq_true.mp hall w hw)

/-- What is spelled like a word of letters is one. -/
theorem letters_of_map_toLower {w : Text}
    (h : ∀ c ∈ w.map Char.toLower, isAsciiLetter c = true) :
    ∀ c ∈ w, isAsciiLetter c = true := by
  intro c hc
  rw [← isAsciiLetter_toLower]
  exact h _ (List.mem_map_of_mem hc)

variable {w : Text}

theorem IsColorName.letters (h : IsColorName w) : ∀ c ∈ w, isAsciiLetter c = true :=
  letters_of_map_toLower (colorWords_spelling _ h).1.2

theorem IsColorName.ne_nil (h : IsColorName w) : w ≠ [] := by
  rintro rfl
  exact (colorWords_spelling _ h).1.1 rfl

theorem IsFunctionName.letters (h : IsFunctionName w) : ∀ c ∈ w, isAsciiLetter c = true :=
  letters_of_map_toLower (functionNames_spelling _ h).2

/-- A function name holds letters only. -/
theorem IsFunctionName.notMem (h : IsFunctionName w) {c : Char} (hc : isAsciiLetter c = false) :
    c ∉ w := by
  intro hmem
  rw [h.letters c hmem] at hc
  cases hc

/-- What opens a call closes it only if the arguments do. -/
theorem IsFunctionName.close_notMem (h : IsFunctionName w) {args : Text} (hargs : ')' ∉ args) :
    ')' ∉ w ++ '(' :: args := by
  simp only [List.mem_append, List.mem_cons, not_or]
  exact ⟨h.notMem rfl, by decide, hargs⟩

theorem IsFunctionName.ne_nil (h : IsFunctionName w) : w ≠ [] := by
  rintro rfl
  exact (functionNames_spelling _ h).1 rfl

theorem IsColorName.not_isFunctionName (h : IsColorName w) : ¬ IsFunctionName w :=
  (colorWords_spelling _ h).2

end Grammar

end CssColor
