import CssColor.Proofs.Conversion

/-!
# Declarations of a converted text

What is written by a conversion can open a declaration where none was: a call
that was open in the source takes the closing parenthesis of a token that has
been written behind it. The lemmas here say that nothing else can happen.

- `endsLead`: a text ends as the lead of a declaration does. Every token stands
  behind such a text, and ends otherwise itself.
- `StartsToken`: a text starts as calls and hex literals do.
- `exists_open_of_change`: a new declaration is a call that was open before the
  change, and its closing parenthesis stands behind it.
- `declares_of_change`: **a new declaration swallows what was written**. Its
  token is a call with a second opening parenthesis, and it ends where the
  written token ends, so the scan goes on with the output of the rest.
-/

namespace CssColor

open Declaration Grammar

/-! ## Ends of leads -/

/-- What the lead of a declaration can end in. -/
def isLeadEnd (c : Char) : Bool :=
  isCssBlank c || c == ':'

/-- A text ends as a lead does. -/
def endsLead (t : Text) : Bool :=
  t.getLast?.any isLeadEnd

theorem endsLead_append {t : Text} (hne : t ≠ []) (before : Text) :
    endsLead (before ++ t) = endsLead t := by
  cases t with
  | nil => exact absurd rfl hne
  | cons c t =>
    rw [endsLead, endsLead, List.getLast?_append, List.getLast?_cons, Option.some_or]

theorem endsLead_of_append {before t : Text} (h : endsLead t = true) :
    endsLead (before ++ t) = true := by
  rw [endsLead_append _ before, h]
  rintro rfl
  cases h

theorem endsLead_eq_false {t : Text} (h : ∀ c ∈ t, isLeadEnd c = false) : endsLead t = false := by
  rw [endsLead]
  cases hlast : t.getLast? with
  | none => rfl
  | some c => exact h c (List.mem_of_getLast? hlast)

theorem isLeadEnd_eq_false_of_isNameChar {c : Char} (h : isNameChar c = true) :
    isLeadEnd c = false := by
  rw [isLeadEnd, isCssBlank_eq_false_of_isNameChar h, Bool.false_or, beq_eq_false_iff_ne]
  rintro rfl
  cases h

namespace Grammar

theorem IsLead.endsLead {w : Text} (h : IsLead w) : endsLead w = true := by
  obtain ⟨name, before, after, -, -, hafter, rfl⟩ := h
  rw [← List.append_assoc, endsLead_append (List.cons_ne_nil _ _), CssColor.endsLead,
    List.getLast?_cons, Option.any_some]
  cases hlast : after.getLast? with
  | none => rfl
  | some c =>
    rw [Option.getD_some, isLeadEnd, hafter c (List.mem_of_getLast? hlast)]
    rfl

/-- A lead holds name characters, blanks and a colon. -/
theorem IsLead.notMem {w : Text} {c : Char} (h : IsLead w) (hname : isNameChar c = false)
    (hend : isLeadEnd c = false) : c ∉ w := by
  rw [isLeadEnd, Bool.or_eq_false_iff, beq_eq_false_iff_ne] at hend
  obtain ⟨name, before, after, hin, hbefore, hafter, rfl⟩ := h
  simp only [List.mem_append, List.mem_cons, not_or]
  refine ⟨fun hc => ?_, fun hc => ?_, hend.2, fun hc => ?_⟩
  · rw [hin.isNameChar c hc] at hname
    cases hname
  · rw [hbefore c hc] at hend
    cases hend.1
  · rw [hafter c hc] at hend
    cases hend.1

theorem letters_isLeadEnd {w : Text} (hw : ∀ c ∈ w, isAsciiLetter c = true) :
    ∀ c ∈ w, isLeadEnd c = false :=
  fun c hc => isLeadEnd_eq_false_of_isNameChar (isNameChar_of_isAsciiLetter (hw c hc))

/-- Only a call holds characters that a lead can end in. -/
theorem IsToken.isLeadEnd_or_isCall {token rest : Text} (h : IsToken token rest) :
    (∀ c ∈ token, isLeadEnd c = false) ∨ IsCall token := by
  rcases h with ⟨hname, -⟩ | ⟨⟨digits, -, hdigits, rfl⟩, -⟩ | hcall
  · exact Or.inl (letters_isLeadEnd hname.letters)
  · refine Or.inl fun c hc => ?_
    rcases List.mem_cons.mp hc with rfl | hc
    · rfl
    · exact isLeadEnd_eq_false_of_isNameChar
        (isNameChar_of_isWordChar (isWordChar_of_isHexDigit (hdigits c hc)))
  · exact Or.inr hcall

/-- No token ends as a lead does. -/
theorem IsToken.endsLead_eq_false {token rest : Text} (h : IsToken token rest) :
    endsLead token = false := by
  rcases h.isLeadEnd_or_isCall with hfree | ⟨name, args, -, -, rfl⟩
  · exact CssColor.endsLead_eq_false hfree
  · rw [← List.cons_append, ← List.append_assoc, endsLead_append (List.cons_ne_nil _ _)]
    rfl

end Grammar

/-! ## What a new declaration holds -/

/-- A text starts as calls and hex literals do: with letters and a sign that no lead holds. -/
def StartsToken (w : Text) : Prop :=
  ∃ letters sign more, (∀ c ∈ letters, isAsciiLetter c = true) ∧ isNameChar sign = false ∧
    isLeadEnd sign = false ∧ w = letters ++ sign :: more

theorem Grammar.IsCall.startsToken {w : Text} (h : IsCall w) : StartsToken w := by
  obtain ⟨name, args, hname, -, rfl⟩ := h
  exact ⟨name, '(', _, hname.letters, by decide, by decide, rfl⟩

theorem Grammar.IsHexLiteral.startsToken {w : Text} (h : IsHexLiteral w) : StartsToken w := by
  obtain ⟨digits, -, -, rfl⟩ := h
  exact ⟨[], '#', digits, nofun, by decide, by decide, rfl⟩

/-- A call ends at the first closing parenthesis. -/
theorem Grammar.IsCall.eq_of_close {w args tail rest : Text} (h : IsCall w) (hargs : ')' ∉ args)
    (heq : w ++ tail = args ++ ')' :: rest) : w = args ++ [')'] ∧ tail = rest := by
  obtain ⟨name, inside, hname, hinside, rfl⟩ := h
  have hopen : (name ++ '(' :: inside) ++ ')' :: tail = args ++ ')' :: rest := by
    rw [← heq]
    simp
  obtain ⟨rfl, rfl⟩ := close_inj (hname.close_notMem hinside) hargs hopen
  exact ⟨by simp, rfl⟩

section Change

variable {before token rest converted tail lead' token' rest' extra : Text}

/-- A lead ends before a written token. -/
theorem exists_lead_append {t : Text} (hwritten : StartsToken converted) (hlead : IsLead lead')
    (heq : before ++ (converted ++ tail) = lead' ++ t) : ∃ more, before = lead' ++ more := by
  obtain ⟨letters, sign, rest, hletters, hname, hend, rfl⟩ := hwritten
  rcases List.append_eq_append_iff.mp heq with ⟨extra, hlonger, hextra⟩ | ⟨more, hshorter, -⟩
  · by_cases hnil : extra = []
    · exact ⟨[], by rw [hlonger, hnil, List.append_nil, List.append_nil]⟩
    · -- what a lead has in common with a token is letters, and no lead ends in a letter
      have hsign : sign ∉ extra := fun hc =>
        hlead.notMem hname hend (hlonger ▸ List.mem_append_right before hc)
      rw [List.append_assoc, List.cons_append] at hextra
      obtain ⟨more, hsplit, -⟩ := split_of_notMem hsign hextra.symm
      have hfree : endsLead extra = false := by
        refine endsLead_eq_false fun c hc => letters_isLeadEnd hletters c ?_
        exact hsplit ▸ List.mem_append_left more hc
      have hlast := hlead.endsLead
      rw [hlonger, endsLead_append hnil, hfree] at hlast
      cases hlast
  · exact ⟨more, hshorter⟩

/-- A token that starts before a written one and does not end there is a call, open in what stands
before it. -/
theorem exists_open_of_append {part : Text} (hpart : endsLead part = true)
    (htoken' : IsToken (part ++ extra) rest') :
    ∃ name inside args, IsFunctionName name ∧ ')' ∉ inside ++ args ∧
      part = name ++ '(' :: inside ∧ extra = args ++ [')'] := by
  rcases htoken'.isLeadEnd_or_isCall with hfree | ⟨name', args', hname', hargs', hsplit'⟩
  · rw [endsLead_eq_false fun c hc => hfree c (List.mem_append_left extra hc)] at hpart
    cases hpart
  have hopen : '(' ∈ part := by
    refine Decidable.byContradiction fun hnot => ?_
    obtain ⟨more, hmore, -⟩ := split_of_notMem hnot hsplit'
    rw [endsLead_eq_false fun c hc => letters_isLeadEnd hname'.letters c
      (hmore ▸ List.mem_append_left more hc)] at hpart
    cases hpart
  obtain ⟨name, inside, rfl, hbefore⟩ := List.eq_append_cons_of_mem hopen
  rw [List.append_assoc, List.cons_append] at hsplit'
  obtain ⟨rfl, hinside⟩ := close_inj hbefore (hname'.notMem rfl) hsplit'
  rcases List.eq_nil_or_concat extra with rfl | ⟨args, last, rfl⟩
  · rw [List.append_nil] at htoken'
    rw [htoken'.endsLead_eq_false] at hpart
    cases hpart
  · rw [List.concat_eq_append] at hinside ⊢
    rw [← List.append_assoc] at hinside
    obtain ⟨rfl, hlast⟩ := List.append_inj' hinside rfl
    cases hlast
    exact ⟨name, inside, args, hname', hargs', rfl, rfl⟩

/-- **A new declaration was open before the change.** Where a token gives way to another one, a
declaration that starts before it, and did not before, is a call that was open there, and it is
closed behind the start of what was written. -/
theorem exists_open_of_change (hbefore : endsLead before = true) (htoken : IsToken token rest)
    (hrest : isTerminated rest = true) (hwritten : StartsToken converted)
    (hno : ¬ StartsDeclaration (before ++ (token ++ rest))) (h : Declares lead' token' rest')
    (heq : before ++ (converted ++ tail) = lead' ++ (token' ++ rest')) :
    ∃ name inside args, IsFunctionName name ∧ ')' ∉ inside ++ args ∧
      before = lead' ++ (name ++ '(' :: inside) ∧ converted ++ tail = args ++ ')' :: rest' ∧
      token' = name ++ '(' :: (inside ++ args ++ [')']) := by
  obtain ⟨part, rfl⟩ := exists_lead_append hwritten h.lead heq
  rw [List.append_assoc] at heq hno
  have hsame := List.append_cancel_left heq
  have hpart : part ≠ [] := by
    rintro rfl
    exact hno ⟨lead', token, rest, ⟨h.lead, htoken, hrest⟩, rfl⟩
  rw [endsLead_append hpart] at hbefore
  rcases List.append_eq_append_iff.mp hsame with ⟨extra, rfl, hcut⟩ | ⟨between, hinside, hrest'⟩
  · obtain ⟨name, inside, args, hname, hargs, rfl, rfl⟩ := exists_open_of_append hbefore h.token
    exact ⟨name, inside, args, hname, hargs, rfl, by simpa using hcut, by simp⟩
  · -- the token stood before the change already, and something is left behind it
    have hbetween : between ≠ [] := by
      rintro rfl
      rw [hinside, List.append_nil, h.token.endsLead_eq_false] at hbefore
      cases hbefore
    refine absurd ⟨lead', token', between ++ (token ++ rest), ⟨h.lead, ?_, ?_⟩, ?_⟩ hno
    · refine h.token.congr_rest ?_
      rw [hrest']
      cases between with
      | nil => exact absurd rfl hbetween
      | cons c between => rfl
    · rw [isTerminated_append, isTerminated_append, hrest, Bool.or_true, Bool.or_true]
    · rw [hinside, List.append_assoc]

/-- **A new declaration swallows what was written.** Where a token gives way to a call, a declaration
that starts before it, and did not before, has an opening parenthesis of its own before the
call and ends with the call. -/
theorem declares_of_change (hbefore : endsLead before = true) (htoken : IsToken token rest)
    (hrest : isTerminated rest = true) (hcall : IsCall converted)
    (hno : ¬ StartsDeclaration (before ++ (token ++ rest))) (h : Declares lead' token' rest')
    (heq : before ++ (converted ++ tail) = lead' ++ (token' ++ rest')) :
    2 ≤ token'.count '(' ∧ rest' = tail := by
  obtain ⟨name, inside, args, -, hargs, -, hcut, rfl⟩ :=
    exists_open_of_change hbefore htoken hrest hcall.startsToken hno h heq
  obtain ⟨rfl, hend⟩ := hcall.eq_of_close (fun hc => hargs (List.mem_append_right inside hc)) hcut
  refine ⟨?_, hend.symm⟩
  obtain ⟨name', args', -, -, hsplit⟩ := hcall
  have hsecond := congrArg (List.count '(') hsplit
  simp only [List.count_append, List.count_cons_self] at hsecond ⊢
  omega

end Change

end CssColor
