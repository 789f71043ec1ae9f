import CssColor.Proofs.Reading
import CssColor.Proofs.Rendering
import CssColor.Proofs.Resync
import CssColor.Proofs.Rewriting

/-!
# Conversion is idempotent

The output of a conversion is another text, and its declarations are not those
of the source: tokens have become calls, and a call that was open in the source
may have been closed by one of them. Still a second conversion changes nothing,
if what each token becomes converts to itself.

- `Stable`: what a conversion writes for a text converts to itself.
- `FirstChange`: the first token of a text that is converted, and how the output
  goes on behind it.
- `output_output`: **the output is converted to itself**, for every way to
  convert tokens that writes calls and refuses tokens with a second opening
  parenthesis.
-/

namespace CssColor

open Declaration Grammar

variable {f : TokenConverter}

/-! ## Stable texts -/

/-- What is written for the tokens of a text converts to itself. -/
def Stable (f : TokenConverter) (t : Text) : Prop :=
  ∀ d ∈ find t, ∀ converted, f d.token = .ok converted → f converted = .ok converted

theorem Stable.of_cons {c : Char} {t : Text} (h : Stable f (c :: t))
    (hno : ¬ StartsDeclaration (c :: t)) : Stable f t := by
  intro d hd
  refine h (d.shift 1) ?_
  rw [find_cons hno]
  exact List.mem_map_of_mem hd

theorem Stable.of_declaration {lead token rest : Text} (h : Stable f (lead ++ (token ++ rest)))
    (hdecl : Declares lead token rest) : Stable f rest := by
  intro d hd
  refine h (d.shift (lead.length + token.length)) ?_
  rw [find_declaration hdecl]
  exact List.mem_cons_of_mem _ (List.mem_map_of_mem hd)

theorem Stable.converts {lead token rest converted : Text}
    (h : Stable f (lead ++ (token ++ rest))) (hdecl : Declares lead token rest)
    (hf : f token = .ok converted) : f converted = .ok converted := by
  refine h ⟨0, lead, token⟩ ?_ converted hf
  rw [find_declaration hdecl]
  exact List.mem_cons_self

/-! ## The first change -/

/-- The first token of a text that is converted: up to it the output is the text. -/
structure FirstChange (f : TokenConverter) (t before token converted rest : Text) : Prop where
  split : t = before ++ (token ++ rest)
  output : (convertWith f t).output = before ++ (converted ++ (convertWith f rest).output)
  converts : f token = .ok converted
  endsLead : endsLead before = true
  token : IsToken token rest
  terminated : isTerminated rest = true
  stable : Stable f t → Stable f rest

theorem FirstRewrite.firstChange {lead token written rest before t : Text}
    (h : FirstRewrite f lead token written rest before t) :
    FirstChange f t (before ++ lead) token written rest where
  split := by rw [h.split, List.append_assoc]
  output := by rw [h.output, List.append_assoc]
  converts := h.converts
  endsLead := endsLead_of_append h.declares.lead.endsLead
  token := h.declares.token
  terminated := h.declares.terminated
  stable hstable d hd := by
    obtain ⟨kept, hfind, -⟩ := h.find_eq
    refine hstable (d.shift (before.length + lead.length + token.length)) ?_
    rw [hfind]
    exact List.mem_append_right kept (List.mem_cons_of_mem _ (List.mem_map_of_mem hd))

/-- The output of a text is the text, or there is a first change in it. -/
theorem output_eq_or_firstChange (f : TokenConverter) (t : Text) :
    (convertWith f t).output = t ∨
      ∃ before token converted rest, FirstChange f t before token converted rest := by
  rcases unchanged_or_firstRewrite f t with ⟨-, hsame⟩ | ⟨_, _, _, _, _, h⟩
  · exact Or.inl hsame
  · exact Or.inr ⟨_, _, _, _, h.firstChange⟩

theorem FirstChange.length_lt {t before token converted rest : Text}
    (h : FirstChange f t before token converted rest) : rest.length < t.length := by
  have htoken := List.length_pos_iff.mpr h.token.ne_nil
  rw [h.split, List.length_append, List.length_append]
  omega

/-! ## The second conversion -/

/-- **The output is converted to itself.** Where the output starts a declaration and the source
does not, the token is refused, and the scan goes on with the output of a rest. -/
theorem output_output (hcall : ∀ token converted, f token = .ok converted → IsCall converted)
    (hrefuse : ∀ token, 2 ≤ token.count '(' → ∃ e, f token = .error e) (t : Text)
    (hstable : Stable f t) :
    (convertWith f (convertWith f t).output).output = (convertWith f t).output := by
  -- `scanInduction` is not enough: a new declaration may end deep in the text, so the induction
  -- must reach every shorter rest
  by_cases hstart : StartsDeclaration t
  · obtain ⟨lead, token, rest, h, rfl⟩ := hstart
    have hshorter : rest.length < (lead ++ (token ++ rest)).length := h.length_lt
    have ih := output_output hcall hrefuse rest (hstable.of_declaration h)
    cases hf : f token with
    | error e =>
      rw [output_of_error h hf, output_of_error (declares_output h) hf, ih]
    | ok converted =>
      have hagain : Declares lead converted (convertWith f rest).output :=
        declares_output_of_isCall h (hcall token converted hf)
      rw [output_of_ok h hf, output_of_ok hagain (hstable.converts h hf), ih]
  · cases t with
    | nil =>
      rw [convertWith_nil]
      exact congrArg Result.output (convertWith_nil f)
    | cons c t =>
      by_cases hnew : StartsDeclaration (c :: (convertWith f t).output)
      · -- without a change before it the declaration would be one of the source
        obtain ⟨lead, token, tail, h, heq⟩ := hnew
        rcases output_eq_or_firstChange f (c :: t) with hsame | hchange
        · rw [hsame, hsame]
        · obtain ⟨before, token', converted, rest, hchange⟩ := hchange
          have hshorter : rest.length < (c :: t).length := hchange.length_lt
          have ih := output_output hcall hrefuse rest (hchange.stable hstable)
          rw [hchange.split] at hstart
          have houtput : before ++ (converted ++ (convertWith f rest).output) =
              lead ++ (token ++ tail) := by
            rw [← hchange.output, ← heq, output_cons (hchange.split ▸ hstart)]
          obtain ⟨hcount, rfl⟩ := declares_of_change hchange.endsLead hchange.token
            hchange.terminated (hcall token' converted hchange.converts) hstart h houtput
          obtain ⟨e, he⟩ := hrefuse token hcount
          rw [hchange.output, houtput, output_of_error h he, ih]
      · have ih := output_output hcall hrefuse t (hstable.of_cons hstart)
        rw [output_cons hstart, output_cons hnew, ih]
termination_by t.length

/-! ## Function notations -/

namespace ColorLibrary

/-- A library refuses every token that holds a second opening parenthesis. -/
def RefusesNested (l : ColorLibrary) : Prop :=
  ∀ token : Text, 2 ≤ token.count '(' → l.read? token = none

theorem convertToken_own (o : Options) : own.convertToken o = CssColor.convertToken o := rfl

theorem refusesNested_own : own.RefusesNested :=
  fun _ => read?_eq_none_of_count

variable {l : ColorLibrary} {o : Options} {token converted : Text}

theorem isCall_of_convertToken (ho : o.target ≠ .hex)
    (h : l.convertToken o token = .ok converted) : Grammar.IsCall converted := by
  rw [convertToken] at h
  split at h
  · cases h
  · obtain ⟨color, -, hwritten⟩ := render_eq_ok_iff.mp h
    exact isCall_of_written (o := o.withExplicitAlpha (hasExplicitAlpha token)) ho hwritten

theorem RefusesNested.convertToken_eq_error (hl : l.RefusesNested) (h : 2 ≤ token.count '(') :
    ∃ e, l.convertToken o token = .error e := by
  refine ⟨.unparseable token, ?_⟩
  rw [convertToken, hl token h]

end ColorLibrary

/-- **Conversion to a function notation is idempotent**, if what was written for each token converts
to itself: with every colour library that refuses tokens with a second opening parenthesis, and
so with the one of this development. -/
theorem convert_idempotent {o : Options} (ho : o.target ≠ .hex) :
    (∀ l : ColorLibrary, l.RefusesNested → ∀ t, Stable (l.convertToken o) t →
      (convertWith (l.convertToken o) (convertWith (l.convertToken o) t).output).output =
        (convertWith (l.convertToken o) t).output) ∧
    ∀ t, Stable (convertToken o) t →
      (convert o (convert o t).output).output = (convert o t).output := by
  have hlibrary : ∀ l : ColorLibrary, l.RefusesNested → ∀ t, Stable (l.convertToken o) t →
      (convertWith (l.convertToken o) (convertWith (l.convertToken o) t).output).output =
        (convertWith (l.convertToken o) t).output :=
    fun l hl => output_output (fun _ _ => ColorLibrary.isCall_of_convertToken ho)
      fun _ => hl.convertToken_eq_error
  refine ⟨hlibrary, fun t hstable => ?_⟩
  rw [← ColorLibrary.convertToken_own] at hstable
  exact hlibrary .own ColorLibrary.refusesNested_own t hstable

/-- A black fill becomes a call, and stays one. -/
theorem convert_idempotent_black :
    Options.target ⟨.rgb, 2, true, false⟩ ≠ .hex ∧ ColorLibrary.own.RefusesNested ∧
      Stable (convertToken ⟨.rgb, 2, true, false⟩) "fill:#000;".toList ∧
      (convert ⟨.rgb, 2, true, false⟩
        (convert ⟨.rgb, 2, true, false⟩ "fill:#000;".toList).output).output =
          (convert ⟨.rgb, 2, true, false⟩ "fill:#000;".toList).output := by
  have hdecl : Declares "fill:".toList "#000".toList [';'] := by
    have hname : ∀ c ∈ "fill".toList, isPropertyChar c = true := List.all_eq_true.mp (by decide)
    have hdigits : ∀ c ∈ "000".toList, isHexDigit c = true := List.all_eq_true.mp (by decide)
    refine ⟨⟨"fill".toList, [], [], Or.inr ⟨by decide, hname⟩, nofun, nofun, by decide⟩, ?_, rfl⟩
    exact .hex ⟨"000".toList, by decide, hdigits, by decide⟩ rfl
  have hend : ¬ StartsDeclaration [';'] := by
    rintro ⟨lead, token, rest, h, heq⟩
    obtain ⟨c, more, rfl, hc⟩ := h.lead.exists_cons
    obtain ⟨rfl, -⟩ := List.cons.inj heq
    cases hc
  have hblack : (convertToken ⟨.rgb, 2, true, false⟩ "#000".toList).toOption =
      some "rgb(0 0 0)".toList := by
    decide +kernel
  have hagain : (convertToken ⟨.rgb, 2, true, false⟩ "rgb(0 0 0)".toList).toOption =
      some "rgb(0 0 0)".toList := by
    decide +kernel
  have hok : ∀ {x : Except TokenError Text} {t : Text}, x.toOption = some t → x = .ok t := by
    rintro (e | t) t' h
    · cases h
    · cases h
      rfl
  have hstable : Stable (convertToken ⟨.rgb, 2, true, false⟩) "fill:#000;".toList := by
    intro d hd converted hconverted
    have hone : find "fill:#000;".toList = [⟨0, "fill:".toList, "#000".toList⟩] := by
      have hfind := find_declaration hdecl
      rw [find_cons hend] at hfind
      exact hfind
    rw [hone] at hd
    obtain rfl := List.mem_singleton.mp hd
    rw [hok hblack] at hconverted
    cases hconverted
    exact hok hagain
  have hrgb : Options.target ⟨.rgb, 2, true, false⟩ ≠ .hex := by decide
  have hlibrary := ColorLibrary.refusesNested_own
  exact ⟨hrgb, hlibrary, hstable, (convert_idempotent hrgb).1 .own hlibrary _ hstable⟩

end CssColor
