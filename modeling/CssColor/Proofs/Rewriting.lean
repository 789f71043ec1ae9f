import CssColor.Proofs.OnePass
import CssColor.Proofs.Region

/-!
# Rewritten declarations, one after another

Up to the first token that is rewritten the output of a conversion is the text,
and behind that token it is the output of what is left. So what is said of a
whole conversion can be proved from one rewritten token to the next.

- `FirstRewrite`: the scan of a text comes to a first token that is rewritten;
  with it what the scan, the list of changes and the output are made of.
- `rewriteInduction`: the induction along the tokens that are rewritten.
- `movedTo`: where an offset of the text lies in the output.
- `exists_output_eq`: **what is written for a token stands where the token has
  moved to**, and the output goes on with that of the text behind the token.
- `Rewritten`: a text is another one with some tokens replaced, and all else
  copied. The output of a conversion is, of a whole text and of a part.
-/

namespace CssColor

open Declaration Grammar

/-! ## Output along the scan -/

section Output

variable {f : TokenConverter}

theorem output_cons {c : Char} {t : Text} (h : ¬ StartsDeclaration (c :: t)) :
    (convertWith f (c :: t)).output = c :: (convertWith f t).output := by
  rw [convertWith_cons f h]
  rfl

theorem output_of_ok {lead token rest converted : Text} (h : Declares lead token rest)
    (hf : f token = .ok converted) :
    (convertWith f (lead ++ (token ++ rest))).output =
      lead ++ (converted ++ (convertWith f rest).output) := by
  rw [convertWith_declaration f h, convertDeclaration, hf]
  exact List.append_assoc ..

theorem output_of_error {lead token rest : Text} {e : TokenError} (h : Declares lead token rest)
    (hf : f token = .error e) :
    (convertWith f (lead ++ (token ++ rest))).output =
      lead ++ (token ++ (convertWith f rest).output) := by
  rw [convertWith_declaration f h, convertDeclaration, hf]
  exact List.append_assoc ..

/-- The output starts as the text does. -/
theorem head?_output (t : Text) : (convertWith f t).output.head? = t.head? := by
  induction t using scanInduction with
  | nil =>
    rw [convertWith_nil]
    rfl
  | skip c t hno ih =>
    rw [output_cons hno]
    rfl
  | declaration lead token rest h ih =>
    obtain ⟨c, more, hlead, -⟩ := h.lead.exists_cons
    cases hf : f token with
    | error e =>
      rw [output_of_error h hf, hlead]
      rfl
    | ok converted =>
      rw [output_of_ok h hf, hlead]
      rfl

/-- The output of a terminated text is terminated: a terminator may be lost with a token, but one
stands behind each token. -/
theorem isTerminated_output {t : Text} (ht : isTerminated t = true) :
    isTerminated (convertWith f t).output = true := by
  induction t using scanInduction with
  | nil => cases ht
  | skip c t hno ih =>
    -- the terminator is this character, or it is in the rest
    rw [output_cons hno]
    rw [isTerminated_cons, Bool.or_eq_true] at ht ⊢
    exact ht.imp_right ih
  | declaration lead token rest h ih =>
    have hrest := ih h.terminated
    cases hf : f token with
    | error e =>
      rw [output_of_error h hf]
      simp only [isTerminated_append, hrest, Bool.or_true]
    | ok converted =>
      rw [output_of_ok h hf]
      simp only [isTerminated_append, hrest, Bool.or_true]

/-- The output has no terminator of its own: behind each token that is lost stands one. -/
theorem isTerminated_of_output {t : Text} (h : isTerminated (convertWith f t).output = true) :
    isTerminated t = true := by
  induction t using scanInduction with
  | nil =>
    rw [convertWith_nil] at h
    cases h
  | skip c t hno ih =>
    rw [output_cons hno] at h
    rw [isTerminated_cons, Bool.or_eq_true] at h ⊢
    exact h.imp_right ih
  | declaration lead token rest hdecl ih =>
    simp only [isTerminated_append, hdecl.terminated, Bool.or_true]

/-- A declaration that keeps its token is one in the output. -/
theorem declares_output {lead token rest : Text} (h : Declares lead token rest) :
    Declares lead token (convertWith f rest).output where
  lead := h.lead
  token := h.token.congr_rest (head?_output rest).symm
  terminated := isTerminated_output h.terminated

/-- One that gets a call as its token is one in the output, whatever stands behind. -/
theorem declares_output_of_isCall {lead token rest converted : Text} (h : Declares lead token rest)
    (hcall : IsCall converted) : Declares lead converted (convertWith f rest).output where
  lead := h.lead
  token := .call hcall
  terminated := isTerminated_output h.terminated

end Output

/-! ## The first token that is rewritten -/

/-- The first token of a text that is rewritten is that of a declaration behind `before`. -/
inductive FirstRewrite (f : TokenConverter) (lead token written rest : Text) : Text → Text → Prop
  /-- The declaration stands at the start. -/
  | here (hdecl : Declares lead token rest) (hf : f token = .ok written) :
      FirstRewrite f lead token written rest [] (lead ++ (token ++ rest))
  /-- No declaration stands at the start. -/
  | skip {c : Char} {before t : Text} (hno : ¬ StartsDeclaration (c :: t))
      (h : FirstRewrite f lead token written rest before t) :
      FirstRewrite f lead token written rest (c :: before) (c :: t)
  /-- A declaration at the start keeps its token. -/
  | kept {lead' token' before t : Text} {e : TokenError} (hdecl : Declares lead' token' t)
      (hf : f token' = .error e) (h : FirstRewrite f lead token written rest before t) :
      FirstRewrite f lead token written rest (lead' ++ (token' ++ before)) (lead' ++ (token' ++ t))

namespace FirstRewrite

variable {f : TokenConverter} {lead token written rest before t : Text}

theorem declares (h : FirstRewrite f lead token written rest before t) :
    Declares lead token rest := by
  induction h with
  | here hdecl _ => exact hdecl
  | skip _ _ ih => exact ih
  | kept _ _ _ ih => exact ih

theorem converts (h : FirstRewrite f lead token written rest before t) :
    f token = .ok written := by
  induction h with
  | here _ hf => exact hf
  | skip _ _ ih => exact ih
  | kept _ _ _ ih => exact ih

theorem split (h : FirstRewrite f lead token written rest before t) :
    t = before ++ (lead ++ (token ++ rest)) := by
  induction h with
  | here _ _ => rfl
  | skip _ _ ih => rw [ih, List.cons_append]
  | kept _ _ _ ih =>
    rw [ih]
    simp only [List.append_assoc]

theorem output (h : FirstRewrite f lead token written rest before t) :
    (convertWith f t).output =
      before ++ (lead ++ (written ++ (convertWith f rest).output)) := by
  induction h with
  | here hdecl hf => exact output_of_ok hdecl hf
  | skip hno _ ih => rw [output_cons hno, ih, List.cons_append]
  | kept hdecl hf _ ih =>
    rw [output_of_error hdecl hf, ih]
    simp only [List.append_assoc]

theorem length_lt (h : FirstRewrite f lead token written rest before t) :
    rest.length < t.length := by
  have hlead := List.length_pos_iff.mpr h.declares.lead.ne_nil
  rw [h.split]
  simp only [List.length_append]
  omega

/-- What stands behind the rewritten token is the rest. -/
theorem drop_add (h : FirstRewrite f lead token written rest before t) (n : Nat) :
    t.drop (n + (before.length + lead.length + token.length)) = rest.drop n := by
  rw [h.split, ← List.append_assoc, ← List.append_assoc, Nat.add_comm, ← List.length_append,
    ← List.length_append, List.drop_length_add_append]

/-- The declarations before the rewritten one keep their tokens, those behind it are those of the
rest. -/
theorem find_eq (h : FirstRewrite f lead token written rest before t) :
    ∃ kept, find t = kept ++ ⟨before.length, lead, token⟩ ::
        (find rest).map (shift (before.length + lead.length + token.length)) ∧
      ∀ d ∈ kept, d.stop ≤ before.length ∧ ∃ e, f d.token = .error e := by
  induction h with
  | here hdecl _ =>
    refine ⟨[], ?_, nofun⟩
    rw [find_declaration hdecl, List.nil_append, List.length_nil, Nat.zero_add]
  | @skip c before t hno _ ih =>
    obtain ⟨kept, hfind, hkept⟩ := ih
    refine ⟨kept.map (shift 1), ?_, fun d hd => ?_⟩
    · rw [find_cons hno, hfind, List.map_append, List.map_cons, map_shift_shift, List.length_cons,
        Nat.add_right_comm, Nat.add_right_comm before.length]
      rfl
    · obtain ⟨d, hin, rfl⟩ := List.mem_map.mp hd
      refine ⟨?_, (hkept d hin).2⟩
      rw [shift_stop]
      exact Nat.succ_le_succ (hkept d hin).1
  | @kept lead' token' before t e hdecl hf _ ih =>
    obtain ⟨kept, hfind, hkept⟩ := ih
    refine ⟨⟨0, lead', token'⟩ :: kept.map (shift (lead'.length + token'.length)), ?_, ?_⟩
    · -- the rest is moved twice: behind the rewritten token, and behind this one
      rw [find_declaration hdecl, hfind, List.map_append, List.map_cons, map_shift_shift, shift]
      simp only [List.length_append, List.cons_append]
      congr 4
      · omega
      · exact congrArg shift (by omega)
    · intro d hd
      simp only [List.length_append]
      rcases List.mem_cons.mp hd with rfl | hd
      · refine ⟨?_, e, hf⟩
        show 0 + lead'.length + token'.length ≤ _
        omega
      · obtain ⟨d, hin, rfl⟩ := List.mem_map.mp hd
        refine ⟨?_, (hkept d hin).2⟩
        have hle := (hkept d hin).1
        rw [shift_stop]
        omega

/-- Only tokens that are kept stand before the rewritten one. -/
theorem error_of_start_lt (h : FirstRewrite f lead token written rest before t) :
    ∀ d ∈ find t, d.start < before.length → ∃ e, f d.token = .error e := by
  obtain ⟨kept, hfind, hkept⟩ := h.find_eq
  intro d hd hlt
  rw [hfind] at hd
  rcases List.mem_append.mp hd with hd | hd
  · exact (hkept d hd).2
  · rcases List.mem_cons.mp hd with rfl | hd
    · exact absurd hlt (Nat.lt_irrefl _)
    · obtain ⟨d, -, rfl⟩ := List.mem_map.mp hd
      rw [shift_start] at hlt
      omega

theorem conversions_eq (h : FirstRewrite f lead token written rest before t) :
    conversions f t = (⟨before.length, lead, token⟩, written) ::
      (conversions f rest).map
        (Prod.map (shift (before.length + lead.length + token.length)) id) := by
  obtain ⟨kept, hfind, hkept⟩ := h.find_eq
  have hnone : kept.filterMap (fun d => (f d.token).toOption.map (d, ·)) = [] := by
    refine List.filterMap_eq_nil_iff.mpr fun d hd => ?_
    obtain ⟨e, he⟩ := (hkept d hd).2
    rw [he]
    rfl
  rw [conversions, hfind, List.filterMap_append, hnone, List.filterMap_cons, h.converts,
    conversions_shift]
  rfl

end FirstRewrite

/-- A text is not changed, or there is a first token that is rewritten. -/
theorem unchanged_or_firstRewrite (f : TokenConverter) (t : Text) :
    conversions f t = [] ∧ (convertWith f t).output = t ∨
      ∃ before lead token written rest, FirstRewrite f lead token written rest before t := by
  induction t using scanInduction with
  | nil =>
    rw [convertWith_nil]
    exact Or.inl ⟨rfl, rfl⟩
  | skip c t hno ih =>
    rcases ih with ⟨hnone, hsame⟩ | ⟨before, lead, token, written, rest, h⟩
    · exact Or.inl ⟨by rw [conversions_cons f hno, hnone]; rfl, by rw [output_cons hno, hsame]⟩
    · exact Or.inr ⟨c :: before, lead, token, written, rest, .skip hno h⟩
  | declaration lead token rest hdecl ih =>
    cases hf : f token with
    | ok written => exact Or.inr ⟨[], lead, token, written, rest, .here hdecl hf⟩
    | error e =>
      rcases ih with ⟨hnone, hsame⟩ | ⟨before, lead', token', written, rest', h⟩
      · refine Or.inl ⟨?_, by rw [output_of_error hdecl hf, hsame]⟩
        rw [conversions_declaration f hdecl, hf, hnone]
        rfl
      · exact Or.inr ⟨_, lead', token', written, rest', .kept hdecl hf h⟩

/-- **Induction along the rewritten tokens**: a text is not changed, or a first token is rewritten
and the conversion goes on behind it. -/
theorem rewriteInduction {f : TokenConverter} {motive : Text → Prop}
    (unchanged : ∀ t, conversions f t = [] → (convertWith f t).output = t → motive t)
    (rewritten : ∀ {before lead token written rest t},
      FirstRewrite f lead token written rest before t → motive rest → motive t) (t : Text) :
    motive t := by
  rcases unchanged_or_firstRewrite f t with ⟨hnone, hsame⟩ | ⟨before, lead, token, written, rest, h⟩
  · exact unchanged t hnone hsame
  · -- the rest may start anywhere in the text, so the induction is on its length
    have hshorter : rest.length < t.length := h.length_lt
    exact rewritten h (rewriteInduction unchanged rewritten rest)
termination_by t.length

/-! ## Where offsets move -/

/-- By how much the changes of tokens that end at an offset or before it make a text longer. -/
def growth : List (Declaration × Text) → Nat → Int
  | [], _ => 0
  | change :: changes, offset =>
    if change.1.stop ≤ offset then
      ((change.2.length : Int) - change.1.token.length) + growth changes offset
    else
      growth changes offset

/-- Where an offset of a text lies once tokens have been changed. -/
def movedTo (changes : List (Declaration × Text)) (offset : Nat) : Int :=
  offset + growth changes offset

section Moved

variable {changes : List (Declaration × Text)}

theorem growth_cons_of_stop_le {change : Declaration × Text} {offset : Nat}
    (h : change.1.stop ≤ offset) :
    growth (change :: changes) offset =
      ((change.2.length : Int) - change.1.token.length) + growth changes offset :=
  if_pos h

theorem growth_cons_of_lt_stop {change : Declaration × Text} {offset : Nat}
    (h : offset < change.1.stop) : growth (change :: changes) offset = growth changes offset :=
  if_neg (Nat.not_le_of_lt h)

/-- Changes behind an offset leave it where it is. -/
theorem growth_eq_zero {offset : Nat} (h : ∀ change ∈ changes, offset < change.1.stop) :
    growth changes offset = 0 := by
  induction changes with
  | nil => rfl
  | cons change changes ih =>
    obtain ⟨hfirst, hrest⟩ := List.forall_mem_cons.mp h
    rw [growth_cons_of_lt_stop hfirst, ih hrest]

/-- Changes that are all moved by one distance make a text as much longer. -/
theorem growth_map {g : Declaration → Declaration} {n offset : Nat}
    (hstop : ∀ d, (g d).stop = d.stop + n) (htoken : ∀ d, (g d).token.length = d.token.length) :
    growth (changes.map (Prod.map g id)) (offset + n) = growth changes offset := by
  induction changes with
  | nil => rfl
  | cons change changes ih =>
    simp only [List.map_cons, growth, Prod.map_fst, Prod.map_snd, id, hstop, htoken, ih,
      Nat.add_le_add_iff_right]

theorem growth_shift (n offset : Nat) :
    growth (changes.map (Prod.map (shift n) id)) (offset + n) = growth changes offset :=
  growth_map (shift_stop n) fun _ => rfl

end Moved

namespace FirstRewrite

variable {f : TokenConverter} {lead token written rest before t : Text}

/-- The first token that is rewritten stays where it is. -/
theorem movedTo_first (h : FirstRewrite f lead token written rest before t) :
    movedTo (conversions f t) (before.length + lead.length) = (before ++ lead).length := by
  have htoken := List.length_pos_iff.mpr h.declares.token.ne_nil
  rw [movedTo, growth_eq_zero, List.length_append, Int.add_zero]
  rw [h.conversions_eq]
  intro change hchange
  rcases List.mem_cons.mp hchange with rfl | hchange
  · show _ < before.length + lead.length + token.length
    omega
  · obtain ⟨change, -, rfl⟩ := List.mem_map.mp hchange
    rw [Prod.map_fst, shift_stop]
    omega

/-- Offsets behind it move as they do in the rest, which begins behind what is written. -/
theorem movedTo_rest (h : FirstRewrite f lead token written rest before t) (offset : Nat) :
    movedTo (conversions f t) (offset + (before.length + lead.length + token.length)) =
      (before ++ (lead ++ written)).length + movedTo (conversions f rest) offset := by
  have hfirst : Declaration.stop ⟨before.length, lead, token⟩ ≤
      offset + (before.length + lead.length + token.length) := Nat.le_add_left ..
  have hsum : growth (conversions f t) (offset + (before.length + lead.length + token.length)) =
      ((written.length : Int) - token.length) + growth (conversions f rest) offset := by
    rw [h.conversions_eq, growth_cons_of_stop_le hfirst, growth_shift]
  rw [movedTo, movedTo, hsum]
  simp only [List.length_append]
  omega

end FirstRewrite

/-- **What is written for a token stands where the token has moved to**, and the output goes on
with that of the text behind the token. -/
theorem exists_output_eq {f : TokenConverter} {t : Text} :
    ∀ change ∈ conversions f t, ∃ before,
      (convertWith f t).output =
        before ++ (change.2 ++ (convertWith f (t.drop change.1.stop)).output) ∧
      (before.length : Int) = movedTo (conversions f t) change.1.tokenStart := by
  induction t using rewriteInduction (f := f) with
  | unchanged t hnone _ =>
    rw [hnone]
    exact nofun
  | @rewritten before lead token written rest t h ih =>
    intro change hchange
    rw [h.conversions_eq] at hchange
    rcases List.mem_cons.mp hchange with rfl | hchange
    · -- nothing is rewritten before the first token, so it has not moved
      refine ⟨before ++ lead, ?_, h.movedTo_first.symm⟩
      have hrest := h.drop_add 0
      rw [Nat.zero_add, List.drop_zero] at hrest
      rw [stop, tokenStart, hrest, h.output, List.append_assoc]
    · obtain ⟨change, hin, rfl⟩ := List.mem_map.mp hchange
      obtain ⟨more, houtput, hplace⟩ := ih change hin
      refine ⟨before ++ (lead ++ (written ++ more)), ?_, ?_⟩
      · rw [Prod.map_fst, Prod.map_snd, shift_stop, h.drop_add, h.output, houtput]
        simp only [List.append_assoc, id]
      · rw [Prod.map_fst, shift_tokenStart, h.movedTo_rest, ← hplace]
        simp only [List.length_append]
        omega

/-! ## Texts with tokens replaced -/

section Rewritten

variable {f : TokenConverter} {t u : Text}

/-- The second text is the first one with some of its tokens replaced by what they become. -/
inductive Rewritten (f : TokenConverter) : Text → Text → Prop where
  | nil : Rewritten f [] []
  | copied (c : Char) {t u : Text} (h : Rewritten f t u) : Rewritten f (c :: t) (c :: u)
  | converted {token converted t u : Text} (htoken : ∃ lead rest, Declares lead token rest)
    (hf : f token = .ok converted) (h : Rewritten f t u) :
    Rewritten f (token ++ t) (converted ++ u)

namespace Rewritten

/-- What is copied in front. -/
theorem append_left (before : Text) (h : Rewritten f t u) :
    Rewritten f (before ++ t) (before ++ u) := by
  induction before with
  | nil => exact h
  | cons c before ih => exact .copied c ih

theorem refl (f : TokenConverter) (t : Text) : Rewritten f t t := by
  induction t with
  | nil => exact .nil
  | cons c t ih => exact .copied c ih

/-- What is copied behind. -/
theorem append_right (h : Rewritten f t u) (after : Text) :
    Rewritten f (t ++ after) (u ++ after) := by
  induction h with
  | nil => exact .refl f after
  | copied c _ ih => exact .copied c ih
  | converted htoken hf _ ih =>
    rw [List.append_assoc, List.append_assoc]
    exact .converted htoken hf ih

end Rewritten

/-- A conversion copies all that is not in a token. -/
theorem rewritten_convertWith (f : TokenConverter) (t : Text) :
    Rewritten f t (convertWith f t).output := by
  induction t using scanInduction with
  | nil =>
    rw [convertWith_nil]
    exact .nil
  | skip c t hno ih =>
    rw [output_cons hno]
    exact .copied c ih
  | declaration lead token rest h ih =>
    cases hf : f token with
    | error e =>
      rw [output_of_error h hf]
      exact (ih.append_left token).append_left lead
    | ok converted =>
      rw [output_of_ok h hf]
      exact .append_left lead (.converted ⟨lead, rest, h⟩ hf ih)

/-- So does the conversion of a part of a text. -/
theorem rewritten_convertRegion (o : Options) (t : Text) (start stop : Int) :
    Rewritten (convertToken o) t (convertRegion o t start stop).output := by
  rw [convertRegion, convertRegion_eq]
  dsimp only
  have hlast := limitOffset_le (limitOffset_le (Nat.zero_le t.length) start) stop
  have hle := le_limitOffset (limitOffset 0 start t) stop t
  generalize limitOffset 0 start t = first at *
  generalize limitOffset first stop t = last at *
  by_cases hempty : first = last
  · rw [if_pos hempty]
    exact rewritten_convertWith _ t
  · have hpart := (rewritten_convertWith (convertToken o) (t.slice first last)).append_right
      (t.drop last)
    rw [Text.slice_append_drop t hle hlast] at hpart
    have hwhole := hpart.append_left (t.take first)
    rw [List.take_append_drop, ← List.append_assoc] at hwhole
    rwa [if_neg hempty]

end Rewritten

end CssColor
