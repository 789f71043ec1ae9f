import CssColor.Proofs.Leftmost

/-!
# Declarations that run on

The arguments of a call end at the first closing parenthesis, whatever stands
before it. A call that is not closed in its own value runs on behind the
terminator, and takes in the declarations that stand there.

- `ownValue`: the value of a declaration up to the next terminator.
- `RunsOn`: a token does not end with that value. Only calls that are open in it
  run on (`StandsIn.runsOn_iff_open`), and their tokens hold the terminator.
- `Absorbs`: a declaration starts inside another one.
- `runsOn_and_absorbs`: **a declaration is lost just where one that is found
  absorbs it**, and it takes an open call to absorb what stands behind the
  terminator.
-/

namespace CssColor

namespace Declaration

open Grammar

/-- What ends a value. -/
def isTerminator (c : Char) : Bool :=
  c == ';' || c == '\x7d'

/-- The value that a declaration has of its own: what stands from its token on up to the next
terminator. -/
def ownValue (t : Text) (d : Declaration) : Text :=
  (t.drop d.tokenStart).takeWhile fun c => !isTerminator c

/-- A declaration goes on behind the end of its own value. -/
def RunsOn (t : Text) (d : Declaration) : Prop :=
  d.tokenStart + (ownValue t d).length < d.stop

/-- A declaration starts inside another one. -/
def Absorbs (d d' : Declaration) : Prop :=
  d.start < d'.start ∧ d'.start < d.stop

instance (d d' : Declaration) : Decidable (Absorbs d d') :=
  inferInstanceAs (Decidable (_ ∧ _))

/-! ## Where own values end -/

/-- A terminated text has a first terminator. -/
theorem exists_first_terminator {t : Text} (h : isTerminated t = true) :
    ∃ own c more, t = own ++ c :: more ∧ isTerminated own = false ∧ isTerminator c = true := by
  induction t with
  | nil => cases h
  | cons c t ih =>
    by_cases hc : isTerminator c = true
    · exact ⟨[], c, t, rfl, rfl, hc⟩
    · rw [isTerminated_cons, Bool.or_eq_true] at h
      obtain ⟨own, d, more, rfl, hown, hd⟩ := ih (h.resolve_left hc)
      refine ⟨c :: own, d, more, rfl, ?_, hd⟩
      rw [isTerminated_cons, hown, Bool.or_false]
      exact Bool.eq_false_iff.mpr hc

/-- What stands before the first terminator of the text from a token on is its own value. -/
theorem ownValue_eq {t own more : Text} {c : Char} {d : Declaration}
    (hdrop : t.drop d.tokenStart = own ++ c :: more) (hown : isTerminated own = false)
    (hc : isTerminator c = true) : ownValue t d = own := by
  rw [ownValue, hdrop]
  refine takeWhile_run (fun d hd => ?_) ?_
  · rw [Bool.not_eq_true']
    exact Bool.eq_false_iff.mpr (List.any_eq_false.mp hown d hd)
  · rw [notNext_cons, hc]
    rfl

section StandsIn

variable {d : Declaration} {t : Text}

/-- A token goes on behind its own value, or it is the start of it. -/
theorem StandsIn.ownValue_cases (h : d.StandsIn t) :
    (isTerminated d.token = true ∧ ∃ c more, d.token = ownValue t d ++ c :: more) ∨
      isTerminated d.token = false ∧ ∃ more, ownValue t d = d.token ++ more := by
  obtain ⟨rest, hdecl, hdrop⟩ := h.drop_tokenStart
  cases hend : isTerminated d.token with
  | true =>
    obtain ⟨own, c, more, hsplit, hown, hc⟩ := exists_first_terminator hend
    rw [hsplit, List.append_assoc, List.cons_append] at hdrop
    exact Or.inl ⟨rfl, c, more, by rw [ownValue_eq hdrop hown hc, hsplit]⟩
  | false =>
    obtain ⟨own, c, more, hsplit, hown, hc⟩ := exists_first_terminator hdecl.terminated
    rw [hsplit, ← List.append_assoc] at hdrop
    have hfree : isTerminated (d.token ++ own) = false := by
      rw [isTerminated_append, hend, hown]
      rfl
    exact Or.inr ⟨rfl, own, ownValue_eq hdrop hfree hc⟩

/-- What runs on holds the terminator of its own value. -/
theorem StandsIn.runsOn_iff (h : d.StandsIn t) : RunsOn t d ↔ isTerminated d.token = true := by
  rw [RunsOn, stop, Nat.add_lt_add_iff_left]
  rcases h.ownValue_cases with ⟨hend, c, more, htoken⟩ | ⟨hend, more, hvalue⟩
  · refine iff_of_true ?_ hend
    have hlength := congrArg List.length htoken
    rw [List.length_append, List.length_cons] at hlength
    omega
  · refine iff_of_false ?_ (by simp [hend])
    rw [hvalue, List.length_append]
    omega

/-- **Only open calls run on**: calls that are not closed in their own value. -/
theorem StandsIn.runsOn_iff_open (h : d.StandsIn t) :
    RunsOn t d ↔ IsCall d.token ∧ ')' ∉ ownValue t d := by
  rw [h.runsOn_iff]
  rcases h.ownValue_cases with ⟨hend, c, more, htoken⟩ | ⟨hend, more, hvalue⟩
  · refine iff_of_true hend ?_
    obtain ⟨rest, hdecl, -⟩ := h.drop_tokenStart
    rcases hdecl.token with ⟨hname, -⟩ | ⟨⟨digits, -, hdigits, hhex⟩, -⟩ | hcall
    · rw [isTerminated_letters hname.letters] at hend
      cases hend
    · rw [hhex, isTerminated_cons, isTerminated_eq_false_of_class hdigits rfl rfl] at hend
      cases hend
    · -- the closing parenthesis of a call is its last character, and more stands behind the value
      refine ⟨hcall, fun hclose => ?_⟩
      obtain ⟨name, args, hname, hargs, hsplit⟩ := hcall
      obtain ⟨before, after, hvalue, hbefore⟩ := List.eq_append_cons_of_mem hclose
      have heq : (name ++ '(' :: args) ++ ')' :: [] = before ++ ')' :: (after ++ c :: more) := by
        rw [List.append_assoc, List.cons_append, ← hsplit, htoken, hvalue, List.append_assoc,
          List.cons_append]
      have hnil := (close_inj (hname.close_notMem hargs) hbefore heq).2
      exact absurd hnil.symm (List.append_ne_nil_of_right_ne_nil after (List.cons_ne_nil _ _))
  · refine iff_of_false (by simp [hend]) ?_
    rintro ⟨⟨name, args, -, -, hsplit⟩, hopen⟩
    refine hopen ?_
    rw [hvalue, hsplit]
    simp

/-- A declaration is found unless one that is found absorbs it. -/
theorem StandsIn.mem_find_iff (h : d.StandsIn t) :
    d ∈ find t ↔ ∀ d' ∈ find t, ¬ d'.Absorbs d := by
  constructor
  · rintro hd d' hd' ⟨hlt, hinside⟩
    rcases trichotomy_of_pairwise (find_ordered t) hd' hd with hbefore | rfl | hbehind
    · exact absurd hinside (Nat.not_lt_of_le hbefore.2)
    · exact Nat.lt_irrefl _ hlt
    · exact Nat.lt_asymm hlt hbehind.1
  · intro hfree
    obtain ⟨d', hd', hle, hlt⟩ := exists_mem_find h
    -- the scan finds one declaration at a place
    rcases Nat.eq_or_lt_of_le hle with heq | hbefore
    · rw [h.eq_of_start (standsIn_of_mem_find d' hd') heq.symm]
      exact hd'
    · exact absurd ⟨hbefore, hlt⟩ (hfree d' hd')

end StandsIn

/-- **A declaration is lost just where one that is found absorbs it.** Those that run on behind the
terminator of their own value are the open calls, and the terminator is part of their tokens. -/
theorem runsOn_and_absorbs (t : Text) :
    (∀ d ∈ find t, (RunsOn t d ↔ isTerminated d.token = true) ∧
      (RunsOn t d ↔ IsCall d.token ∧ ')' ∉ ownValue t d)) ∧
    ∀ d : Declaration, d.StandsIn t → (d ∉ find t ↔ ∃ d' ∈ find t, d'.Absorbs d) := by
  refine ⟨fun d hd => ?_, fun d hd => ?_⟩
  · have hstands := standsIn_of_mem_find d hd
    exact ⟨hstands.runsOn_iff, hstands.runsOn_iff_open⟩
  · rw [hd.mem_find_iff]
    simp

/-! ## A call that is not closed -/

/-- A rule of which the first value is not closed. -/
def openRule : Text :=
  "* \x7b color: rgb(1 2 3; fill: red; stroke: rgb(4 5 6); \x7d".toList

/-- The one declaration that is found in the rule. -/
def openColor : Declaration :=
  ⟨4, "color: ".toList, "rgb(1 2 3; fill: red; stroke: rgb(4 5 6)".toList⟩

/-- The first declaration behind it. -/
def lostFill : Declaration :=
  ⟨22, "fill: ".toList, "red".toList⟩

theorem find_openRule : find openRule = [openColor] := by
  have hlead : IsLead openColor.lead := by
    have hname : ∀ c ∈ "color".toList, isPropertyChar c = true := List.all_eq_true.mp (by decide)
    have hblank : ∀ c ∈ [' '], isCssBlank c = true := List.all_eq_true.mp (by decide)
    exact ⟨"color".toList, [], [' '], Or.inr ⟨by decide, hname⟩, nofun, hblank, by decide⟩
  have hcall : IsCall openColor.token :=
    ⟨"rgb".toList, "1 2 3; fill: red; stroke: rgb(4 5 6".toList, by decide, by decide, by decide⟩
  have hdecl : Declares openColor.lead openColor.token [';', ' ', '\x7d'] :=
    ⟨hlead, .call hcall, by decide⟩
  have hskip : ∀ {c : Char} {t : Text}, isNameChar c = false →
      find (c :: t) = (find t).map (shift 1) := fun hc => find_cons (not_startsDeclaration hc)
  have hsplit : openRule =
      '*' :: ' ' :: '\x7b' :: ' ' :: (openColor.lead ++ (openColor.token ++ [';', ' ', '\x7d'])) :=
    by decide
  rw [hsplit, hskip rfl, hskip rfl, hskip rfl, hskip rfl, find_declaration hdecl, hskip rfl,
    hskip rfl, hskip rfl]
  rfl

theorem lostFill_standsIn : lostFill.StandsIn openRule := by
  have hname : ∀ c ∈ "fill".toList, isPropertyChar c = true := List.all_eq_true.mp (by decide)
  have hblank : ∀ c ∈ [' '], isCssBlank c = true := List.all_eq_true.mp (by decide)
  refine ⟨"* \x7b color: rgb(1 2 3; ".toList, "; stroke: rgb(4 5 6); \x7d".toList,
    ⟨⟨"fill".toList, [], [' '], Or.inr ⟨by decide, hname⟩, nofun, hblank, by decide⟩, ?_,
      by decide⟩, by decide, by decide⟩
  exact .name (by decide +kernel) (by decide)

/-- The first value of the rule runs on, and the declaration behind it is lost. -/
theorem openColor_runsOn_and_absorbs :
    openColor ∈ find openRule ∧ lostFill.StandsIn openRule ∧ RunsOn openRule openColor ∧
      lostFill ∉ find openRule := by
  have hfound : openColor ∈ find openRule := by
    rw [find_openRule]
    exact List.mem_singleton_self _
  obtain ⟨hruns, hlost⟩ := runsOn_and_absorbs openRule
  refine ⟨hfound, lostFill_standsIn, (hruns _ hfound).1.mpr (by decide), ?_⟩
  exact (hlost _ lostFill_standsIn).mpr ⟨_, hfound, by decide⟩

/-- Tokens hold semicolons. -/
theorem exists_terminated_token : ¬ ∀ t, ∀ d ∈ find t, ';' ∉ d.token ∧ '\x7d' ∉ d.token := by
  intro hfree
  have hone := (hfree openRule openColor (by rw [find_openRule]; exact List.mem_singleton_self _)).1
  exact hone (by decide)

end Declaration

end CssColor
