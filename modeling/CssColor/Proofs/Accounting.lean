import CssColor.Proofs.Boundary
import CssColor.Report

/-!
# What a conversion accounts for

Each declaration that is found is either rewritten or reported, so the counts of
a result and its status say what became of every one of them.

- `Fails`: a token is read as no colour, or its colour cannot be written.
- `editsApplied_add_errorColors`: rewritten and reported declarations are all
  that were found, for every way to convert tokens.
- `errorColors_convertWith`: what is reported is the tokens that fail, in the
  order of the text, each as often as it stands there.
- `Accounts`: a result says of a list of declarations which of them fail.
- `convert_accounts`: **a conversion accounts for all declarations**.
-/

namespace CssColor

open Declaration

/-! ## Tokens that fail -/

/-- A token fails under options: a colour library reads it as no colour, or its colour has no
notation. -/
inductive Fails (l : ColorLibrary) (o : Options) (token : Text) : Prop where
  | unread (hread : l.read? token = none)
  | unwritten {color : Color} {e : TokenError} (hread : l.read? token = some color)
      (hrender : l.render color (o.withExplicitAlpha (hasExplicitAlpha token)) = .error e)

theorem fails_iff {l : ColorLibrary} {o : Options} {token : Text} :
    Fails l o token ↔ (l.convertToken o token).toOption = none := by
  rw [ColorLibrary.convertToken]
  constructor
  · rintro (hread | ⟨hread, hrender⟩)
    · rw [hread]
      rfl
    · rw [hread]
      dsimp only
      rw [hrender]
      rfl
  · cases hread : l.read? token with
    | none => exact fun _ => .unread hread
    | some color =>
      dsimp only
      cases hrender : l.render color (o.withExplicitAlpha (hasExplicitAlpha token)) with
      | error e => exact fun _ => .unwritten hread hrender
      | ok converted => exact nofun

instance (l : ColorLibrary) (o : Options) (token : Text) : Decidable (Fails l o token) :=
  decidable_of_iff _ fails_iff.symm

/-! ## Counts -/

section Counts

variable (f : TokenConverter) (t : Text)

/-- Each attempt makes an edit or leaves its token. -/
theorem length_edits_add_failedTokens (tried : List Attempt) :
    (tried.filterMap Attempt.edit?).length + (tried.filterMap Attempt.failedToken?).length =
      tried.length := by
  induction tried with
  | nil => rfl
  | cons a tried ih =>
    rcases a with ⟨d, e | converted⟩
    · simp only [List.filterMap_cons, Attempt.edit?, Attempt.failedToken?, List.length_cons]
      omega
    · simp only [List.filterMap_cons, Attempt.edit?, Attempt.failedToken?, List.length_cons]
      omega

theorem editsApplied_add_errorColors :
    (convertWith f t).editsApplied + (convertWith f t).errorColors.length = (find t).length := by
  have hcount := length_edits_add_failedTokens (attempts f t)
  rw [attempts, List.length_map] at hcount
  show ((List.length _ : Nat) : Int) + ((List.length _ : Nat) : Int) = _
  rw [← Int.natCast_add]
  exact congrArg Nat.cast hcount

/-- What is counted are declarations of the text. -/
theorem natAbs_editsApplied_le : (convertWith f t).editsApplied.natAbs ≤ t.length := by
  have hcount := length_edits_add_failedTokens (attempts f t)
  have htried : (attempts f t).length = (find t).length := List.length_map _
  have hfind := length_find_le t
  show ((List.length _ : Nat) : Int).natAbs ≤ _
  rw [Int.natAbs_natCast]
  omega

theorem errorColors_convertWith :
    (convertWith f t).errorColors =
      ((find t).map Declaration.token).filter fun token => (f token).toOption = none := by
  show ((find t).map fun d => (⟨d, f d.token⟩ : Attempt)).filterMap Attempt.failedToken? = _
  induction find t with
  | nil => rfl
  | cons d ds ih =>
    rw [List.map_cons, List.map_cons, List.filterMap_cons, List.filter_cons, ih]
    cases f d.token <;> rfl

theorem editsApplied_nonneg : 0 ≤ (convertWith f t).editsApplied :=
  Int.natCast_nonneg _

end Counts

/-! ## The status of a result -/

section Status

variable {r : Result}

theorem status_eq_converted_iff : r.status = .converted ↔ 0 < r.editsApplied := by
  rw [Result.status, Result.changed]
  by_cases hchanged : 0 < r.editsApplied
  · simp [hchanged]
  · cases r.hasErrors <;> simp [hchanged]

theorem status_eq_noMatches_iff :
    r.status = .noMatches ↔ ¬ 0 < r.editsApplied ∧ r.errorColors = [] := by
  rw [Result.status, Result.changed, Result.hasErrors]
  by_cases hchanged : 0 < r.editsApplied
  · simp [hchanged]
  · cases r.errorColors <;> simp [hchanged]

theorem status_eq_noConvertibleMatches_iff :
    r.status = .noConvertibleMatches ↔ ¬ 0 < r.editsApplied ∧ r.errorColors ≠ [] := by
  rw [Result.status, Result.changed, Result.hasErrors]
  by_cases hchanged : 0 < r.editsApplied
  · simp [hchanged]
  · cases r.errorColors <;> simp [hchanged]

end Status

/-! ## Accounts -/

/-- A result of a text accounts for its declarations, of which those with certain tokens fail. -/
structure Accounts (fails : Text → Prop) [DecidablePred fails] (t : Text) (r : Result) : Prop where
  /-- Each declaration is rewritten or reported. -/
  total : r.editsApplied + r.errorColors.length = (find t).length
  /-- The tokens that fail are reported in their order, as they are spelled. -/
  errors : r.errorColors = ((find t).map Declaration.token).filter fun token => fails token
  /-- Where nothing is rewritten, the text is kept. -/
  unchanged : r.editsApplied = 0 → r.output = t
  noMatches : r.status = .noMatches ↔ find t = []
  noConvertibleMatches :
    r.status = .noConvertibleMatches ↔ find t ≠ [] ∧ ∀ d ∈ find t, fails d.token
  converted : r.status = .converted ↔ ∃ d ∈ find t, ¬ fails d.token

/-- Nothing is rewritten just where every token fails. -/
theorem not_changed_iff (f : TokenConverter) (t : Text) :
    ¬ 0 < (convertWith f t).editsApplied ↔ ∀ d ∈ find t, (f d.token).toOption = none := by
  have htotal := editsApplied_add_errorColors f t
  have hnonneg := editsApplied_nonneg f t
  have hle := List.length_filter_le (fun token => decide ((f token).toOption = none))
    ((find t).map Declaration.token)
  rw [← errorColors_convertWith, List.length_map] at hle
  have hall : (convertWith f t).errorColors.length = ((find t).map Declaration.token).length ↔
      ∀ d ∈ find t, (f d.token).toOption = none := by
    rw [errorColors_convertWith, List.length_filter_eq_length_iff]
    simp only [List.forall_mem_map, decide_eq_true_eq]
  rw [← hall, List.length_map]
  omega

/-- **A conversion accounts for all declarations**, whatever becomes of their tokens. -/
theorem accounts_convertWith (f : TokenConverter) (t : Text) :
    Accounts (fun token => (f token).toOption = none) t (convertWith f t) where
  total := editsApplied_add_errorColors f t
  errors := errorColors_convertWith f t
  unchanged hnone := by
    rw [convertWith_of_not_changed f (t := t) (by rw [Result.changed, hnone]; rfl)]
  noMatches := by
    rw [status_eq_noMatches_iff, not_changed_iff, errorColors_convertWith, List.filter_eq_nil_iff]
    simp only [List.forall_mem_map, decide_eq_true_eq]
    constructor
    · rintro ⟨hfail, hok⟩
      exact List.eq_nil_iff_forall_not_mem.mpr fun d hd => hok d hd (hfail d hd)
    · intro hnil
      simp [hnil]
  noConvertibleMatches := by
    rw [status_eq_noConvertibleMatches_iff, not_changed_iff, and_comm]
    refine and_congr_left fun hfail => not_congr ?_
    rw [errorColors_convertWith, List.filter_eq_self.mpr, List.map_eq_nil_iff]
    simpa only [List.forall_mem_map, decide_eq_true_eq] using hfail
  converted := by
    have hsome := not_congr (not_changed_iff f t)
    rw [Decidable.not_not] at hsome
    rw [status_eq_converted_iff, hsome]
    simp

/-- **The conversion of a text accounts for its declarations**, with every colour library: what is
not rewritten is reported, and it is what is read as no colour or cannot be written. -/
theorem convert_accounts (l : ColorLibrary) (o : Options) (t : Text) :
    Accounts (Fails l o) t (l.convert o t) := by
  have h := accounts_convertWith (l.convertToken o) t
  simp only [← fails_iff] at h
  exact h

end CssColor
