import CssColor.Proofs.Conversion

/-!
# One pass from left to right

The edits of a conversion hold the whole declaration and are applied to a text
that changes with each of them. What they should amount to needs no edits: the
text is read once, each token that converts gives way to what it becomes, and
every other character is kept where it is.

- `conversions`: the declarations of a text whose token converts.
- `written`: what the pass writes for the character at an offset.
- `onePass`: what it writes for a whole text.
- `written_of_covers`: tokens do not get in each other's way.
- `convertWith_output`: **a conversion amounts to one pass**, for every way to
  convert tokens.
-/

namespace CssColor

open Declaration Grammar

/-! ## The pass -/

/-- The declarations of a text whose token converts, each with what its token becomes. -/
def conversions (f : TokenConverter) (t : Text) : List (Declaration × Text) :=
  (find t).filterMap fun d => (f d.token).toOption.map (d, ·)

/-- The token of a declaration covers an offset. -/
def Covers (offset : Nat) (d : Declaration) : Prop :=
  d.tokenStart ≤ offset ∧ offset < d.stop

instance (offset : Nat) (d : Declaration) : Decidable (Covers offset d) :=
  inferInstanceAs (Decidable (_ ∧ _))

/-- What is written for the character at an offset: outside all tokens that convert the character
itself, at the start of one what it becomes, and nothing for the rest of its characters. -/
def written (changes : List (Declaration × Text)) (offset : Nat) (c : Char) : Text :=
  match changes.find? fun change => Covers offset change.1 with
  | none => [c]
  | some (d, converted) => if offset = d.tokenStart then converted else []

/-- What is written for a text that begins at an offset. -/
def passFrom (changes : List (Declaration × Text)) (offset : Nat) (t : Text) : Text :=
  (t.zipIdx offset).flatMap fun (c, i) => written changes i c

/-- What is written for a text. -/
def onePass (changes : List (Declaration × Text)) (t : Text) : Text :=
  passFrom changes 0 t

/-! ## Parts of a pass -/

variable {changes : List (Declaration × Text)}

@[simp] theorem passFrom_cons (offset : Nat) (c : Char) (t : Text) :
    passFrom changes offset (c :: t) = written changes offset c ++ passFrom changes (offset + 1) t :=
  rfl

theorem passFrom_append (offset : Nat) (t u : Text) :
    passFrom changes offset (t ++ u) =
      passFrom changes offset t ++ passFrom changes (offset + t.length) u := by
  rw [passFrom, List.zipIdx_append, List.flatMap_append, Nat.add_comm]
  rfl

@[simp] theorem passFrom_unchanged (offset : Nat) (t : Text) : passFrom [] offset t = t := by
  induction t generalizing offset with
  | nil => rfl
  | cons c t ih => exact congrArg (c :: ·) (ih (offset + 1))

/-- A pass is settled by what is written at each offset of its text. -/
theorem passFrom_congr {changes' : List (Declaration × Text)} {offset : Nat} {t : Text}
    (h : ∀ i c, offset ≤ i → i < offset + t.length → written changes i c = written changes' i c) :
    passFrom changes offset t = passFrom changes' offset t := by
  induction t generalizing offset with
  | nil => rfl
  | cons c t ih =>
    rw [List.length_cons] at h
    rw [passFrom_cons, passFrom_cons, h offset c (Nat.le_refl _) (by omega), ih]
    exact fun i c' hle hlt => h i c' (Nat.le_of_succ_le hle) (by omega)

theorem passFrom_eq_nil {offset : Nat} {t : Text}
    (h : ∀ i c, offset ≤ i → i < offset + t.length → written changes i c = []) :
    passFrom changes offset t = [] := by
  induction t generalizing offset with
  | nil => rfl
  | cons c t ih =>
    rw [List.length_cons] at h
    rw [passFrom_cons, h offset c (Nat.le_refl _) (by omega), ih]
    · rfl
    · exact fun i c' hle hlt => h i c' (Nat.le_of_succ_le hle) (by omega)

/-- A pass only looks at the places of declarations relative to its text. -/
theorem passFrom_shift (n offset : Nat) (t : Text) :
    passFrom (changes.map (Prod.map (Declaration.shift n) id)) (offset + n) t =
      passFrom changes offset t := by
  have hhere : ∀ offset c,
      written (changes.map (Prod.map (Declaration.shift n) id)) (offset + n) c =
        written changes offset c := by
    intro offset c
    have hcovers : ∀ d : Declaration, Covers (offset + n) (d.shift n) ↔ Covers offset d := by
      intro d
      rw [Covers, Covers, shift_tokenStart, shift_stop, Nat.add_le_add_iff_right,
        Nat.add_lt_add_iff_right]
    rw [written, written, List.find?_map]
    simp only [Function.comp_def, Prod.map_fst, hcovers]
    cases changes.find? fun change => Covers offset change.1 with
    | none => rfl
    | some change => simp only [Option.map_some, Prod.map, shift_tokenStart, id,
        Nat.add_right_cancel_iff]
  induction t generalizing offset with
  | nil => rfl
  | cons c t ih => rw [passFrom_cons, passFrom_cons, hhere, Nat.add_right_comm, ih]

/-- What no token covers is kept. -/
theorem passFrom_of_not_covers {offset : Nat} {t : Text}
    (h : ∀ change ∈ changes, ∀ i, offset ≤ i → i < offset + t.length → ¬ Covers i change.1) :
    passFrom changes offset t = t := by
  rw [passFrom_congr, passFrom_unchanged]
  intro i c hle hlt
  have hnone : changes.find? (fun change => Covers i change.1) = none := by
    rw [List.find?_eq_none]
    intro change hchange
    rw [decide_eq_true_eq]
    exact h change hchange i hle hlt
  rw [written, hnone]
  rfl

/-- A change that does not reach a text is left aside. -/
theorem passFrom_cons_of_not_covers {change : Declaration × Text} {offset : Nat} {t : Text}
    (h : ∀ i, offset ≤ i → i < offset + t.length → ¬ Covers i change.1) :
    passFrom (change :: changes) offset t = passFrom changes offset t := by
  refine passFrom_congr fun i c hle hlt => ?_
  rw [written, List.find?_cons_of_neg, written]
  rw [decide_eq_true_eq]
  exact h i hle hlt

/-- For the characters of a token that comes first, what it becomes is written. -/
theorem passFrom_token (d : Declaration) (converted : Text) (hne : d.token ≠ []) :
    passFrom ((d, converted) :: changes) d.tokenStart d.token = converted := by
  have hwritten : ∀ i c, d.tokenStart ≤ i → i < d.stop →
      written ((d, converted) :: changes) i c = if i = d.tokenStart then converted else [] := by
    intro i c hle hlt
    rw [written, List.find?_cons_of_pos]
    exact decide_eq_true ⟨hle, hlt⟩
  rw [Declaration.stop] at hwritten
  cases htoken : d.token with
  | nil => exact absurd htoken hne
  | cons c more =>
    rw [htoken, List.length_cons] at hwritten
    rw [passFrom_cons, hwritten _ c (Nat.le_refl _) (by omega), if_pos rfl, passFrom_eq_nil,
      List.append_nil]
    intro i c' hle hlt
    rw [hwritten i c' (Nat.le_of_succ_le hle) (by omega), if_neg (Nat.ne_of_gt hle)]

/-! ## The pass along the scan -/

variable (f : TokenConverter)

variable {f} in
theorem of_mem_conversions {t : Text} {change : Declaration × Text}
    (h : change ∈ conversions f t) : change.1 ∈ find t ∧ f change.1.token = .ok change.2 := by
  obtain ⟨d, hd, hchange⟩ := List.mem_filterMap.mp h
  obtain ⟨converted, hconverted, rfl⟩ := Option.map_eq_some_iff.mp hchange
  refine ⟨hd, ?_⟩
  cases hf : f d.token with
  | error e =>
    rw [hf] at hconverted
    cases hconverted
  | ok t =>
    rw [hf] at hconverted
    cases hconverted
    rfl

/-- No other token is in the way: where a token that converts stands, what it becomes is written
once, and nothing else. -/
theorem written_of_covers {d : Declaration} {converted t : Text} {i : Nat}
    (hmem : (d, converted) ∈ conversions f t) (hcovers : Covers i d) (c : Char) :
    written (conversions f t) i c = if i = d.tokenStart then converted else [] := by
  obtain ⟨hd, hconverted⟩ := of_mem_conversions hmem
  rw [written]
  cases hfirst : (conversions f t).find? fun change => Covers i change.1 with
  | none => exact absurd (decide_eq_true hcovers) (List.find?_eq_none.mp hfirst _ hmem)
  | some change =>
    obtain ⟨hd', hconverted'⟩ := of_mem_conversions (List.mem_of_find?_eq_some hfirst)
    have hcovers' : Covers i change.1 := by
      have hdecided := List.find?_some hfirst
      exact of_decide_eq_true hdecided
    have hsame : d = change.1 := by
      -- tokens of different declarations share no offset
      rcases trichotomy_of_pairwise (find_separate t) hd hd' with hbefore | heq | hbehind
      · have hle : change.1.start ≤ i := Nat.le_trans (Nat.le_add_right _ _) hcovers'.1
        exact absurd hcovers.2 (Nat.not_lt_of_le (Nat.le_trans hbefore hle))
      · exact heq
      · have hle : d.start ≤ i := Nat.le_trans (Nat.le_add_right _ _) hcovers.1
        exact absurd hcovers'.2 (Nat.not_lt_of_le (Nat.le_trans hbehind hle))
    obtain ⟨d', converted'⟩ := change
    obtain rfl : d = d' := hsame
    rw [hconverted] at hconverted'
    cases hconverted'
    rfl

theorem conversions_shift (n : Nat) (ds : List Declaration) :
    ((ds.map (shift n)).filterMap fun d => (f d.token).toOption.map (d, ·)) =
      (ds.filterMap fun d => (f d.token).toOption.map (d, ·)).map (Prod.map (shift n) id) := by
  rw [List.filterMap_map, List.map_filterMap]
  refine congrArg (List.filterMap · ds) (funext fun d => ?_)
  show (f d.token).toOption.map _ = _
  cases (f d.token).toOption <;> rfl

theorem conversions_cons {c : Char} {t : Text} (h : ¬ StartsDeclaration (c :: t)) :
    conversions f (c :: t) = (conversions f t).map (Prod.map (shift 1) id) := by
  rw [conversions, find_cons h, conversions_shift]
  rfl

theorem conversions_declaration {lead token rest : Text} (h : Declares lead token rest) :
    conversions f (lead ++ (token ++ rest)) =
      ((f token).toOption.map (⟨0, lead, token⟩, ·)).toList ++
        (conversions f rest).map (Prod.map (shift (lead.length + token.length)) id) := by
  rw [conversions, find_declaration h, List.filterMap_cons, conversions_shift]
  cases (f token).toOption <;> rfl

/-- Text that ends before all places of changes is kept. -/
theorem passFrom_before {n offset : Nat} {t : Text} (h : offset + t.length ≤ n) :
    passFrom (changes.map (Prod.map (shift n) id)) offset t = t := by
  refine passFrom_of_not_covers fun change hchange i _ hlt hcovers => ?_
  obtain ⟨change, -, rfl⟩ := List.mem_map.mp hchange
  have hle := hcovers.1
  simp only [Prod.map_fst, shift_tokenStart] at hle
  omega

/-- What stands before a text is kept, and the pass over the text is as it is without it. -/
theorem passFrom_behind (before t : Text) :
    passFrom (changes.map (Prod.map (shift before.length) id)) 0 (before ++ t) =
      before ++ onePass changes t := by
  rw [passFrom_append, passFrom_before (Nat.le_of_eq (Nat.zero_add _)), passFrom_shift]
  rfl

/-- A declaration that converts comes first: its token gives way to what it becomes. -/
theorem onePass_declaration {lead token : Text} (hne : token ≠ []) (converted rest : Text) :
    onePass ((⟨0, lead, token⟩, converted) ::
        changes.map (Prod.map (shift (lead.length + token.length)) id))
      (lead ++ (token ++ rest)) = lead ++ (converted ++ onePass changes rest) := by
  have htoken : ∀ (more : List (Declaration × Text)),
      passFrom ((⟨0, lead, token⟩, converted) :: more) (0 + lead.length) token = converted :=
    fun _ => passFrom_token ⟨0, lead, token⟩ converted hne
  rw [onePass, passFrom_append, passFrom_append, htoken, passFrom_cons_of_not_covers,
    passFrom_before, passFrom_cons_of_not_covers, Nat.add_assoc, passFrom_shift, onePass]
  · rintro i hle - ⟨-, hlt⟩
    rw [Declaration.stop, Declaration.tokenStart] at hlt
    exact absurd hlt (Nat.not_lt_of_le hle)
  · omega
  · rintro i - hlt ⟨hle, -⟩
    rw [Declaration.tokenStart] at hle
    exact absurd hlt (Nat.not_lt_of_le hle)

/-- **A conversion amounts to one pass** from left to right that copies the text, and writes what
a token becomes in its place where it converts. -/
theorem convertWith_output (t : Text) :
    (convertWith f t).output = onePass (conversions f t) t := by
  induction t using scanInduction with
  | nil =>
    rw [convertWith_nil]
    rfl
  | skip c t hno ih =>
    rw [convertWith_cons f hno, Result.output_append, ih, conversions_cons f hno]
    exact (passFrom_behind [c] t).symm
  | declaration lead token rest hdecl ih =>
    rw [convertWith_declaration f hdecl, Result.output_append, ih, conversions_declaration f hdecl,
      convertDeclaration]
    cases f token with
    | error problem =>
      -- no change: the whole declaration is text before the changes of the rest
      rw [← List.length_append, ← List.append_assoc]
      exact (passFrom_behind (lead ++ token) rest).symm
    | ok converted =>
      rw [List.append_assoc]
      exact (onePass_declaration hdecl.token.ne_nil converted rest).symm

end CssColor
