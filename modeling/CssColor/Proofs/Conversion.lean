import CssColor.Conversion
import CssColor.Proofs.Scan

/-!
# Conversion along the scan

A conversion finds all declarations first, turns them into edits, sorts the
edits and applies them one after another to a text that changes on the way. The
lemmas here say what comes of it, one step of the scan at a time:

- `sortEdits_eq_reverse`: edits that stand in order are applied from the last to
  the first, so an edit never meets offsets that another one moved;
- `Result.append`: two results side by side, with `convertWith_cons` and
  `convertWith_declaration`: **the result of a text is put together** from what
  becomes of its first character or declaration and the result of the rest.
-/

namespace CssColor

/-! ## Edits from the last to the first -/

namespace Edit

/-- The edit of the same range behind `count` more characters. -/
def shift (count : Nat) (e : Edit) : Edit :=
  { e with
    start := e.start + count
    stop := e.stop + count
    start_le_stop := Nat.add_le_add_right e.start_le_stop count }

theorem shift_apply (e : Edit) (before t : Text) :
    (e.shift before.length).apply (before ++ t) = before ++ e.apply t := by
  have htake : (before ++ t).take (e.start + before.length) = before ++ t.take e.start := by
    rw [Nat.add_comm, List.take_length_add_append]
  have hdrop : (before ++ t).drop (e.stop + before.length) = t.drop e.stop := by
    rw [Nat.add_comm, List.drop_length_add_append]
  rw [apply, apply]
  show (before ++ t).take (e.start + before.length) ++ e.replacement ++
    (before ++ t).drop (e.stop + before.length) = _
  rw [htake, hdrop]
  simp only [List.append_assoc]

end Edit

@[simp] theorem applyEdits_cons (t : Text) (e : Edit) (edits : List Edit) :
    applyEdits t (e :: edits) = applyEdits (e.apply t) edits := rfl

theorem applyEdits_append (t : Text) (edits more : List Edit) :
    applyEdits t (edits ++ more) = applyEdits (applyEdits t edits) more :=
  List.foldl_append

/-- Edits behind a text leave it as it is. -/
theorem applyEdits_shift (before t : Text) (edits : List Edit) :
    applyEdits (before ++ t) (edits.map (Edit.shift before.length)) =
      before ++ applyEdits t edits := by
  induction edits generalizing t with
  | nil => rfl
  | cons e edits ih => rw [List.map_cons, applyEdits_cons, Edit.shift_apply, ih, applyEdits_cons]

/-- Edits by descending start, of which no two start at one place, are what sorting gives, in
whatever order they come. -/
theorem sortEdits_eq_of_perm {edits sorted : List Edit} (hperm : sorted.Perm edits)
    (h : sorted.Pairwise fun e e' => e'.start < e.start) : sortEdits edits = sorted := by
  have hsorted : (sortEdits edits).Pairwise fun e e' => e'.start ≤ e.start := by
    have hsort : (sortEdits edits).Pairwise fun e e' => decide (e'.start ≤ e.start) := by
      refine List.pairwise_mergeSort (fun a b c hab hbc => ?_) (fun a b => ?_) edits
      · simp only [decide_eq_true_eq] at hab hbc ⊢
        exact Nat.le_trans hbc hab
      · simp only [Bool.or_eq_true, decide_eq_true_eq]
        exact Nat.le_total b.start a.start
    exact hsort.imp of_decide_eq_true
  have hsame : (sortEdits edits).Perm sorted := (List.mergeSort_perm edits _).trans hperm.symm
  refine hsame.eq_of_pairwise (fun e e' he he' hle hge => ?_) hsorted (h.imp Nat.le_of_lt)
  -- two edits with one start are the same edit, as different ones have different starts
  rcases Declaration.trichotomy_of_pairwise h (hsame.subset he) he' with hlt | rfl | hgt
  · exact absurd hge (Nat.not_le_of_lt hlt)
  · rfl
  · exact absurd hle (Nat.not_le_of_lt hgt)

/-- Sorting edits that stand in order turns them round. -/
theorem sortEdits_eq_reverse {edits : List Edit}
    (h : edits.Pairwise fun e e' => e.start < e'.start) : sortEdits edits = edits.reverse :=
  sortEdits_eq_of_perm (List.reverse_perm edits) (List.pairwise_reverse.mpr h)

/-! ## Results side by side -/

namespace Result

/-- The result of two texts that stand side by side. -/
def append (r r' : Result) : Result :=
  { output := r.output ++ r'.output
    editsApplied := r.editsApplied + r'.editsApplied
    errorColors := r.errorColors ++ r'.errorColors }

instance : Append Result := ⟨append⟩

variable (r r' r'' : Result)

@[simp] theorem output_append : (r ++ r').output = r.output ++ r'.output := rfl

@[simp] theorem editsApplied_append :
    (r ++ r').editsApplied = r.editsApplied + r'.editsApplied := rfl

@[simp] theorem errorColors_append :
    (r ++ r').errorColors = r.errorColors ++ r'.errorColors := rfl

@[ext] theorem ext {r r' : Result} (houtput : r.output = r'.output)
    (hedits : r.editsApplied = r'.editsApplied) (herrors : r.errorColors = r'.errorColors) :
    r = r' := by
  cases r
  cases r'
  cases houtput
  cases hedits
  cases herrors
  rfl

theorem append_assoc : r ++ r' ++ r'' = r ++ (r' ++ r'') := by
  ext1
  · exact List.append_assoc ..
  · exact Int.add_assoc ..
  · exact List.append_assoc ..

/-- The result of a text without declarations. -/
def unchanged (t : Text) : Result :=
  { output := t }

theorem unchanged_append : unchanged [] ++ r = r := by
  ext1
  · rfl
  · exact Int.zero_add _
  · rfl

end Result

/-- The result of a single declaration. -/
def convertDeclaration (f : TokenConverter) (lead token : Text) : Result :=
  match f token with
  | .ok converted => { output := lead ++ converted, editsApplied := 1 }
  | .error _ => { output := lead ++ token, errorColors := [token] }

/-! ## One step of a conversion -/

namespace Attempt

/-- The attempt as it stands behind `count` more characters. -/
def shift (count : Nat) (a : Attempt) : Attempt :=
  { a with declaration := a.declaration.shift count }

theorem edit?_shift (count : Nat) (a : Attempt) :
    (a.shift count).edit? = a.edit?.map (Edit.shift count) := by
  rcases a with ⟨d, _ | converted⟩
  · rfl
  · simp only [shift, edit?, Option.map_some, Edit.shift, Declaration.shift_start,
      Declaration.shift_stop, Declaration.shift_lead]

theorem failedToken?_shift (count : Nat) (a : Attempt) :
    (a.shift count).failedToken? = a.failedToken? := by
  rcases a with ⟨d, _ | converted⟩ <;> rfl

end Attempt

variable (f : TokenConverter)

/-- The edits that a conversion makes of a text. -/
def editsOf (t : Text) : List Edit :=
  (attempts f t).filterMap Attempt.edit?

theorem edits_shift (count : Nat) (tried : List Attempt) :
    (tried.map (Attempt.shift count)).filterMap Attempt.edit? =
      (tried.filterMap Attempt.edit?).map (Edit.shift count) := by
  rw [List.filterMap_map, List.map_filterMap]
  exact congrArg (List.filterMap · tried) (funext fun a => a.edit?_shift count)

theorem failedTokens_shift (count : Nat) (tried : List Attempt) :
    (tried.map (Attempt.shift count)).filterMap Attempt.failedToken? =
      tried.filterMap Attempt.failedToken? := by
  rw [List.filterMap_map]
  exact congrArg (List.filterMap · tried) (funext fun a => a.failedToken?_shift count)

theorem attempts_cons {c : Char} {t : Text} (h : ¬ Grammar.StartsDeclaration (c :: t)) :
    attempts f (c :: t) = (attempts f t).map (Attempt.shift 1) := by
  rw [attempts, attempts, Declaration.find_cons h, List.map_map, List.map_map]
  rfl

theorem attempts_declaration {lead token rest : Text} (h : Grammar.Declares lead token rest) :
    attempts f (lead ++ (token ++ rest)) =
      ⟨⟨0, lead, token⟩, f token⟩ ::
        (attempts f rest).map (Attempt.shift (lead ++ token).length) := by
  rw [attempts, attempts, Declaration.find_declaration h, List.map_cons, List.map_map,
    List.map_map, List.length_append]
  rfl

/-- The edits of a text stand in order. -/
theorem editsOf_ordered (t : Text) :
    (editsOf f t).Pairwise fun e e' => e.start < e'.start := by
  have hstart : ∀ (a : Attempt) (e : Edit), a.edit? = some e → e.start = a.declaration.start := by
    rintro ⟨d, _ | converted⟩ e he
    · cases he
    · cases he
      rfl
  rw [editsOf, List.pairwise_filterMap, attempts, List.pairwise_map]
  refine (Declaration.find_ordered t).imp fun {d d'} hlt e he e' he' => ?_
  rw [hstart _ e he, hstart _ e' he']
  exact hlt.1

/-- The edits are applied from the last to the first. -/
theorem convertWith_eq (t : Text) :
    convertWith f t =
      { output := applyEdits t (editsOf f t).reverse
        editsApplied := (editsOf f t).length
        errorColors := (attempts f t).filterMap Attempt.failedToken? } := by
  rw [← sortEdits_eq_reverse (editsOf_ordered f t)]
  rfl

@[simp] theorem convertWith_nil : convertWith f [] = Result.unchanged [] := by
  rw [convertWith_eq]
  rfl

/-- Where no declaration starts, one character is kept. -/
theorem convertWith_cons {c : Char} {t : Text} (h : ¬ Grammar.StartsDeclaration (c :: t)) :
    convertWith f (c :: t) = Result.unchanged [c] ++ convertWith f t := by
  have hedits : editsOf f (c :: t) = (editsOf f t).map (Edit.shift [c].length) := by
    rw [editsOf, attempts_cons f h, edits_shift]
    rfl
  rw [convertWith_eq, convertWith_eq f t, hedits, attempts_cons f h, failedTokens_shift,
    ← List.map_reverse, List.length_map]
  ext1
  · exact applyEdits_shift [c] t _
  · exact (Int.zero_add _).symm
  · rfl

/-- The edit of a declaration at the start of a text, and those of the rest. -/
theorem editsOf_declaration {lead token rest : Text} (h : Grammar.Declares lead token rest) :
    editsOf f (lead ++ (token ++ rest)) =
      (Attempt.edit? ⟨⟨0, lead, token⟩, f token⟩).toList ++
        (editsOf f rest).map (Edit.shift (lead ++ token).length) := by
  rw [editsOf, attempts_declaration f h, List.filterMap_cons, edits_shift]
  cases Attempt.edit? ⟨⟨0, lead, token⟩, f token⟩ <;> rfl

theorem failedTokens_declaration {lead token rest : Text} (h : Grammar.Declares lead token rest) :
    (attempts f (lead ++ (token ++ rest))).filterMap Attempt.failedToken? =
      (Attempt.failedToken? ⟨⟨0, lead, token⟩, f token⟩).toList ++
        (attempts f rest).filterMap Attempt.failedToken? := by
  rw [attempts_declaration f h, List.filterMap_cons, failedTokens_shift]
  cases Attempt.failedToken? ⟨⟨0, lead, token⟩, f token⟩ <;> rfl

/-- The edit of a declaration at the start of a text puts what its token becomes in its place. -/
theorem applyEdits_declaration (lead token rest : Text) :
    applyEdits (lead ++ token ++ rest) (Attempt.edit? ⟨⟨0, lead, token⟩, f token⟩).toList =
      (convertDeclaration f lead token).output ++ rest := by
  rw [convertDeclaration]
  cases f token with
  | error problem => rfl
  | ok converted =>
    have hstop : Declaration.stop ⟨0, lead, token⟩ = 0 + (lead ++ token).length := by
      rw [Declaration.stop, Declaration.tokenStart, List.length_append, Nat.add_assoc]
    exact (@Edit.apply_append _ [] (lead ++ token) rest) rfl hstop

/-- Where a declaration starts, it becomes what a single declaration becomes. -/
theorem convertWith_declaration {lead token rest : Text} (h : Grammar.Declares lead token rest) :
    convertWith f (lead ++ (token ++ rest)) =
      convertDeclaration f lead token ++ convertWith f rest := by
  rw [convertWith_eq, convertWith_eq f rest, editsOf_declaration f h,
    failedTokens_declaration f h]
  ext1
  · -- the edits of the rest come first and leave the declaration where it is
    have hrest := applyEdits_shift (lead ++ token) rest (editsOf f rest).reverse
    rw [List.map_reverse, List.append_assoc] at hrest
    have hself := applyEdits_declaration f lead token (applyEdits rest (editsOf f rest).reverse)
    show applyEdits _ (List.reverse _) = (convertDeclaration f lead token).output ++ _
    rw [← hself, ← hrest, List.reverse_append, applyEdits_append]
    congr 1
    cases Attempt.edit? ⟨⟨0, lead, token⟩, f token⟩ <;> rfl
  · show ((List.length _ : Nat) : Int) = (convertDeclaration f lead token).editsApplied + _
    rw [List.length_append, List.length_map, convertDeclaration]
    cases f token with
    | error problem => simp [Attempt.edit?]
    | ok converted => simp [Attempt.edit?]
  · show _ = (convertDeclaration f lead token).errorColors ++ _
    rw [convertDeclaration]
    cases f token <;> rfl

end CssColor
