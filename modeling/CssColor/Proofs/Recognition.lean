import CssColor.Proofs.Rendering
import CssColor.Proofs.Resync
import CssColor.Proofs.Rewriting

/-!
# Rewritten declarations in the output

What is written for a token should be a token of the output. It is not one where
a call that was open before it takes it in, and a hex literal is not one where a
word goes on behind it: only calls may stand before a word character.

- `Recognised`: the scan of the output finds what was written where it stands.
- `OpensCall`: a call is open before the token of a declaration.
- `Resumes`: the scan of the output comes to the end of what was written.
- `recognised_iff_of_isCall`: **a written call is recognised unless a call is open
  before it**.
- `recognised_iff_of_isHexLiteral`: **written hex literals are recognised unless
  one of them stands before a word character**.
- `convert_recognised`: what this means for each target.
-/

namespace CssColor

open Declaration Grammar

/-! ## What is recognised -/

/-- The scan of the output finds what was written for a token at the place of the token. -/
def Recognised (f : TokenConverter) (t : Text) (change : Declaration × Text) : Prop :=
  ∃ m ∈ find (convertWith f t).output, m.token = change.2 ∧
    (m.tokenStart : Int) = movedTo (conversions f t) change.1.tokenStart

/-- A call that starts at `p` is open before the token of a declaration: no declaration stands
there, and none that is rewritten stands between. -/
structure OpensCall (f : TokenConverter) (t : Text) (d : Declaration) (p : Nat) : Prop where
  opens : ∃ lead name args, IsLead lead ∧ IsFunctionName name ∧ ')' ∉ args ∧
    t.slice p d.tokenStart = lead ++ (name ++ '(' :: args)
  free : ∀ d' ∈ find t, d'.start ≤ p → d'.stop ≤ p
  kept : ∀ d' ∈ find t, p < d'.start → d'.start < d.start → ∃ e, f d'.token = .error e

namespace OpensCall

variable {f : TokenConverter} {t : Text} {d : Declaration} {p : Nat}

theorem lt_tokenStart (h : OpensCall f t d p) : p < d.tokenStart := by
  obtain ⟨lead, name, args, hlead, -, -, hslice⟩ := h.opens
  refine Nat.lt_of_not_le fun hle => hlead.ne_nil ?_
  have hnil : t.slice p d.tokenStart = [] := by
    rw [Text.slice, List.drop_eq_nil_iff, List.length_take]
    omega
  rw [hslice] at hnil
  exact (List.append_eq_nil_iff.mp hnil).1

/-- What is open before the token of a declaration starts before the declaration. -/
theorem lt_start (h : OpensCall f t d p) (hd : d ∈ find t) : p < d.start := by
  refine Nat.lt_of_not_le fun hle => ?_
  have hstop := h.free d hd hle
  have hlt := h.lt_tokenStart
  rw [stop] at hstop
  omega

/-- Open calls are those of the text from some offset on, if only declarations that stand before
the offset are left out. -/
theorem append_iff {pre : Text} {ds : List Declaration}
    (hfind : find (pre ++ t) = ds ++ (find t).map (shift pre.length))
    (hds : ∀ d' ∈ ds, d'.stop ≤ pre.length) :
    OpensCall f (pre ++ t) (d.shift pre.length) (p + pre.length) ↔ OpensCall f t d p := by
  have hmem : ∀ d', d' ∈ find (pre ++ t) ↔ d' ∈ ds ∨ ∃ m ∈ find t, m.shift pre.length = d' := by
    intro d'
    rw [hfind, List.mem_append, List.mem_map]
  constructor
  · rintro ⟨hopens, hfree, hkept⟩
    rw [shift_tokenStart, Text.slice_append_right] at hopens
    refine ⟨hopens, fun d' hd' hle => ?_, fun d' hd' hlt hbefore => ?_⟩
    · have hstop := hfree _ ((hmem _).mpr (Or.inr ⟨d', hd', rfl⟩))
      rw [shift_start, shift_stop] at hstop
      omega
    · have herror := hkept _ ((hmem _).mpr (Or.inr ⟨d', hd', rfl⟩))
      rw [shift_start, shift_start] at herror
      exact herror (Nat.add_lt_add_right hlt _) (Nat.add_lt_add_right hbefore _)
  · rintro ⟨hopens, hfree, hkept⟩
    refine ⟨?_, fun d' hd' hle => ?_, fun d' hd' hlt hbefore => ?_⟩
    · rwa [shift_tokenStart, Text.slice_append_right]
    · rcases (hmem d').mp hd' with hd' | ⟨m, hm, rfl⟩
      · have hstop := hds d' hd'
        omega
      · have hstop := hfree m hm
        rw [shift_start] at hle
        rw [shift_stop]
        omega
    · rcases (hmem d').mp hd' with hd' | ⟨m, hm, rfl⟩
      · have hstop := hds d' hd'
        have hle : d'.start ≤ d'.stop := by
          rw [stop, tokenStart]
          omega
        omega
      · simp only [shift_start] at hlt hbefore
        exact hkept m hm (by omega) (by omega)

/-- The same of all offsets, if nothing is open before the text. -/
theorem exists_append_iff (pre : Text) (ds : List Declaration)
    (hfind : find (pre ++ t) = ds ++ (find t).map (shift pre.length))
    (hds : ∀ d' ∈ ds, d'.stop ≤ pre.length)
    (hpre : ∀ p, OpensCall f (pre ++ t) (d.shift pre.length) p → pre.length ≤ p) :
    (∃ p, OpensCall f (pre ++ t) (d.shift pre.length) p) ↔ ∃ p, OpensCall f t d p := by
  constructor
  · rintro ⟨p, hopen⟩
    obtain ⟨q, rfl⟩ := Nat.exists_eq_add_of_le' (hpre p hopen)
    exact ⟨q, (append_iff hfind hds).mp hopen⟩
  · rintro ⟨p, hopen⟩
    exact ⟨p + pre.length, (append_iff hfind hds).mpr hopen⟩

end OpensCall

/-! ## The scan of the output -/

/-- The scan of the output of a text comes to the end of what was written at a place, and goes on
with the output of a rest. -/
structure Resumes (f : TokenConverter) (t written rest : Text) (place : Nat)
    (found : List Declaration) : Prop where
  find_eq : find (convertWith f t).output =
    found ++ (find (convertWith f rest).output).map (shift (place + written.length))
  lt : ∀ m ∈ found, m.tokenStart < place + written.length

/-- What was written at a place is the token of one of some declarations. -/
def Holds (found : List Declaration) (written : Text) (place : Nat) : Prop :=
  ∃ m ∈ found, m.token = written ∧ m.tokenStart = place

theorem holds_map_shift {found : List Declaration} {written : Text} {place n : Nat} :
    Holds (found.map (shift n)) written (place + n) ↔ Holds found written place := by
  simp only [Holds, List.mem_map]
  constructor
  · rintro ⟨_, ⟨m, hm, rfl⟩, htoken, hplace⟩
    rw [shift_tokenStart] at hplace
    exact ⟨m, hm, htoken, Nat.add_right_cancel hplace⟩
  · rintro ⟨m, hm, htoken, hplace⟩
    exact ⟨_, ⟨m, hm, rfl⟩, htoken, by rw [shift_tokenStart, hplace]⟩

namespace Resumes

variable {f : TokenConverter} {t written rest : Text} {place : Nat} {found : List Declaration}

/-- A declaration at the start ends where what was written ends. -/
theorem of_declares {lead token : Text} (hdecl : Declares lead token (convertWith f rest).output)
    (hout : (convertWith f t).output = lead ++ (token ++ (convertWith f rest).output))
    (hend : lead.length + token.length = place + written.length) :
    Resumes f t written rest place [⟨0, lead, token⟩] where
  find_eq := by
    rw [hout, find_declaration hdecl, hend]
    rfl
  lt m hm := by
    obtain rfl := List.mem_singleton.mp hm
    have htoken := List.length_pos_iff.mpr hdecl.token.ne_nil
    show 0 + lead.length < _
    omega

theorem skip {c : Char} (hno : ¬ StartsDeclaration (c :: t))
    (hnew : ¬ StartsDeclaration (c :: (convertWith f t).output))
    (h : Resumes f t written rest place found) :
    Resumes f (c :: t) written rest (place + 1) (found.map (shift 1)) where
  find_eq := by
    rw [output_cons hno, find_cons hnew, h.find_eq, List.map_append, map_shift_shift,
      Nat.add_right_comm place]
  lt m hm := by
    obtain ⟨m, hin, rfl⟩ := List.mem_map.mp hm
    have hlt := h.lt m hin
    rw [shift_tokenStart]
    omega

theorem kept {lead token : Text} {e : TokenError} (hdecl : Declares lead token t)
    (hf : f token = .error e) (h : Resumes f t written rest place found) :
    Resumes f (lead ++ (token ++ t)) written rest (place + (lead.length + token.length))
      (⟨0, lead, token⟩ :: found.map (shift (lead.length + token.length))) where
  find_eq := by
    rw [output_of_error hdecl hf, find_declaration (declares_output hdecl), h.find_eq,
      List.map_append, map_shift_shift, Nat.add_right_comm place]
    rfl
  lt m hm := by
    rcases List.mem_cons.mp hm with rfl | hm
    · have htoken := List.length_pos_iff.mpr hdecl.token.ne_nil
      show 0 + lead.length < _
      omega
    · obtain ⟨m, hin, rfl⟩ := List.mem_map.mp hm
      have hlt := h.lt m hin
      rw [shift_tokenStart]
      omega

end Resumes

/-- A kept declaration stands before the place of what is written behind it. -/
theorem holds_kept_iff {lead token written : Text} {place : Nat} {found : List Declaration}
    (htoken : token ≠ []) :
    Holds (⟨0, lead, token⟩ :: found.map (shift (lead.length + token.length))) written
        (place + (lead.length + token.length)) ↔ Holds found written place := by
  rw [← @holds_map_shift found written place (lead.length + token.length)]
  have hpos := List.length_pos_iff.mpr htoken
  constructor
  · rintro ⟨m, hm, hwritten, hplace⟩
    rcases List.mem_cons.mp hm with rfl | hm
    · replace hplace : 0 + lead.length = place + (lead.length + token.length) := hplace
      omega
    · exact ⟨m, hm, hwritten, hplace⟩
  · rintro ⟨m, hm, hwritten, hplace⟩
    exact ⟨m, List.mem_cons_of_mem _ hm, hwritten, hplace⟩

namespace FirstRewrite

variable {f : TokenConverter} {lead token written rest before t : Text} {found : List Declaration}

theorem slice_eq (h : FirstRewrite f lead token written rest before t) :
    t.slice 0 (before.length + lead.length) = before ++ lead := by
  rw [h.split, ← List.append_assoc, ← List.length_append]
  exact Text.slice_append_left ..

/-- A declaration that starts with the output only is a call that was open before the first
rewritten token. -/
theorem exists_open {lead' token' tail : Text}
    (h : FirstRewrite f lead token written rest before t) (hwritten : StartsToken written)
    (hno : ¬ StartsDeclaration t) (hdecl : Declares lead' token' tail)
    (heq : (convertWith f t).output = lead' ++ (token' ++ tail)) :
    ∃ name inside args, IsFunctionName name ∧ ')' ∉ inside ++ args ∧
      before ++ lead = lead' ++ (name ++ '(' :: inside) ∧
      written ++ (convertWith f rest).output = args ++ ')' :: tail ∧
      token' = name ++ '(' :: (inside ++ args ++ [')']) := by
  have hdeclares := h.declares
  rw [h.split, ← List.append_assoc] at hno
  rw [h.output, ← List.append_assoc] at heq
  exact exists_open_of_change (endsLead_of_append hdeclares.lead.endsLead) hdeclares.token
    hdeclares.terminated hwritten hno hdecl heq

/-- The first rewritten token is recognised if one of the declarations up to it holds what was
written. -/
theorem recognised_first_iff (h : FirstRewrite f lead token written rest before t)
    (hwritten : written ≠ []) (hres : Resumes f t written rest (before ++ lead).length found) :
    Recognised f t (⟨before.length, lead, token⟩, written) ↔
      Holds found written (before ++ lead).length := by
  have hpos := List.length_pos_iff.mpr hwritten
  have hplace : movedTo (conversions f t) (tokenStart ⟨before.length, lead, token⟩) =
      (before ++ lead).length := h.movedTo_first
  rw [Recognised, hplace]
  constructor
  · rintro ⟨m, hm, htoken, hstart⟩
    rw [hres.find_eq] at hm
    rcases List.mem_append.mp hm with hm | hm
    · exact ⟨m, hm, htoken, Int.ofNat.inj hstart⟩
    · -- what is found in the rest stands behind what was written
      obtain ⟨m, -, rfl⟩ := List.mem_map.mp hm
      rw [shift_tokenStart] at hstart
      omega
  · rintro ⟨m, hm, htoken, hstart⟩
    refine ⟨m, ?_, htoken, congrArg Nat.cast hstart⟩
    rw [hres.find_eq]
    exact List.mem_append_left _ hm

/-- The others are recognised as in the rest. -/
theorem recognised_rest_iff (h : FirstRewrite f lead token written rest before t)
    (hres : Resumes f t written rest (before ++ lead).length found) {change : Declaration × Text}
    (hchange : change ∈ conversions f rest) :
    Recognised f t
        (Prod.map (shift (before.length + lead.length + token.length)) id change) ↔
      Recognised f rest change := by
  obtain ⟨more, -, hplace⟩ := exists_output_eq change hchange
  have hlength :
      (before ++ (lead ++ written)).length = (before ++ lead).length + written.length := by
    rw [← List.append_assoc, List.length_append]
  rw [Recognised, Recognised, Prod.map_fst, Prod.map_snd, shift_tokenStart, h.movedTo_rest, hlength,
    hres.find_eq]
  constructor
  · rintro ⟨m, hm, htoken, hstart⟩
    rcases List.mem_append.mp hm with hm | hm
    · have hlt := hres.lt m hm
      omega
    · obtain ⟨m, hin, rfl⟩ := List.mem_map.mp hm
      rw [shift_tokenStart] at hstart
      exact ⟨m, hin, htoken, by omega⟩
  · rintro ⟨m, hm, htoken, hstart⟩
    refine ⟨_, List.mem_append_right _ (List.mem_map_of_mem hm), htoken, ?_⟩
    rw [shift_tokenStart]
    omega

end FirstRewrite

/-! ## Written calls -/

section Calls

variable {f : TokenConverter} {lead token written rest before t : Text}

/-- A call that is open before the first rewritten token and starts with the text is closed by what
is written. -/
theorem FirstRewrite.startsDeclaration_of_opensCall
    (h : FirstRewrite f lead token written rest before t) (hcall : IsCall written)
    (hopen : OpensCall f t ⟨before.length, lead, token⟩ 0) :
    StartsDeclaration (convertWith f t).output := by
  obtain ⟨lead', name, args, hlead, hname, hargs, hslice⟩ := hopen.opens
  have hsplit : before ++ lead = lead' ++ (name ++ '(' :: args) := by
    rw [← h.slice_eq]
    exact hslice
  obtain ⟨name', args', hname', hargs', rfl⟩ := hcall
  have hclosed : ')' ∉ args ++ (name' ++ '(' :: args') := by
    rw [List.mem_append, not_or]
    exact ⟨hargs, hname'.close_notMem hargs'⟩
  refine ⟨lead', name ++ '(' :: (args ++ (name' ++ '(' :: args') ++ [')']),
    (convertWith f rest).output,
    ⟨hlead, .call ⟨name, _, hname, hclosed, rfl⟩, isTerminated_output h.declares.terminated⟩, ?_⟩
  rw [h.output, ← List.append_assoc before, hsplit]
  simp

/-- A declaration that starts with the output only is a call that was open before the first
rewritten token, and it ends with what is written. -/
theorem FirstRewrite.opensCall_of_declares {c : Char} {lead' token' tail : Text}
    (h : FirstRewrite f lead token written rest before t) (hcall : IsCall written)
    (hno : ¬ StartsDeclaration (c :: t)) (hdecl : Declares lead' token' tail)
    (heq : c :: (convertWith f t).output = lead' ++ (token' ++ tail)) :
    OpensCall f (c :: t) ⟨(c :: before).length, lead, token⟩ 0 ∧
      tail = (convertWith f rest).output ∧ lead'.length < (c :: before ++ lead).length ∧
      lead'.length + token'.length = (c :: before ++ lead).length + written.length := by
  have hskip := h.skip hno
  obtain ⟨name, inside, args, hname, hargs, hbefore, hcut, rfl⟩ :=
    hskip.exists_open hcall.startsToken hno hdecl ((output_cons hno).trans heq)
  rw [List.mem_append, not_or] at hargs
  obtain ⟨rfl, hrest⟩ := hcall.eq_of_close hargs.2 hcut
  have hlength := congrArg List.length hbefore
  simp only [List.length_append, List.length_cons, List.length_nil] at hlength ⊢
  refine ⟨⟨⟨lead', name, inside, hdecl.lead, hname, hargs.1, ?_⟩, fun d hd hle => ?_,
    fun d hd _ hlt => hskip.error_of_start_lt d hd hlt⟩, hrest.symm, by omega, by omega⟩
  · rw [← hbefore, ← hskip.slice_eq]
    rfl
  · -- nothing is found at the start of the text
    rw [find_cons hno] at hd
    obtain ⟨d, -, rfl⟩ := List.mem_map.mp hd
    rw [shift_start] at hle
    omega

/-- The scan of the output comes to the end of a written call, and it has found the call unless one
is open before it. -/
theorem FirstRewrite.resumes_of_isCall (h : FirstRewrite f lead token written rest before t)
    (hcall : IsCall written) :
    ∃ found, Resumes f t written rest (before ++ lead).length found ∧
      (Holds found written (before ++ lead).length ↔
        ¬ ∃ p, OpensCall f t ⟨before.length, lead, token⟩ p) := by
  induction h with
  | here hdecl hf =>
    have hwritten : Declares lead written (convertWith f rest).output :=
      declares_output_of_isCall hdecl hcall
    refine ⟨_, .of_declares hwritten (output_of_ok hdecl hf) rfl, iff_of_true ?_ ?_⟩
    · exact ⟨_, List.mem_singleton_self _, rfl, Nat.zero_add _⟩
    · rintro ⟨p, hopen⟩
      refine Nat.not_lt_zero p (hopen.lt_start ?_)
      rw [find_declaration hdecl]
      exact List.mem_cons_self
  | @skip c before t hno h ih =>
    by_cases hnew : StartsDeclaration (c :: (convertWith f t).output)
    · -- the new declaration takes in what is written
      obtain ⟨lead', token', tail, hdecl, heq⟩ := hnew
      obtain ⟨hopen, rfl, hlt, hend⟩ := h.opensCall_of_declares hcall hno hdecl heq
      refine ⟨_, .of_declares hdecl ((output_cons hno).trans heq) hend, iff_of_false ?_ ?_⟩
      · rintro ⟨m, hm, -, hplace⟩
        obtain rfl := List.mem_singleton.mp hm
        replace hplace : 0 + lead'.length = (c :: before ++ lead).length := hplace
        omega
      · exact fun hnone => hnone ⟨0, hopen⟩
    · -- nothing that is open starts here: what is written would have closed it
      obtain ⟨found, hres, hiff⟩ := ih
      refine ⟨_, hres.skip hno hnew, holds_map_shift.trans (hiff.trans (not_congr ?_))⟩
      refine (OpensCall.exists_append_iff [c] [] (find_cons hno) nofun fun p hopen => ?_).symm
      refine Nat.pos_of_ne_zero ?_
      rintro rfl
      refine hnew ?_
      rw [← output_cons hno]
      exact (h.skip hno).startsDeclaration_of_opensCall hcall hopen
  | @kept lead' token' before t e hdecl hf h ih =>
    obtain ⟨found, hres, hiff⟩ := ih
    have hplace : (lead' ++ (token' ++ before) ++ lead).length =
        (before ++ lead).length + (lead'.length + token'.length) := by
      simp only [List.length_append]
      omega
    have hmoved : (⟨(lead' ++ (token' ++ before)).length, lead, token⟩ : Declaration) =
        shift (lead' ++ token').length ⟨before.length, lead, token⟩ := by
      simp only [shift, List.length_append, Declaration.mk.injEq, and_true]
      omega
    rw [hplace, hmoved]
    refine ⟨_, hres.kept hdecl hf, (holds_kept_iff hdecl.token.ne_nil).trans
      (hiff.trans (not_congr ?_))⟩
    rw [← List.append_assoc]
    have hfind : find (lead' ++ token' ++ t) =
        [⟨0, lead', token'⟩] ++ (find t).map (shift (lead' ++ token').length) := by
      rw [List.append_assoc, find_declaration hdecl, List.length_append]
      rfl
    have hstop : Declaration.stop ⟨0, lead', token'⟩ = (lead' ++ token').length := by
      rw [List.length_append, stop, tokenStart, Nat.zero_add]
    refine (OpensCall.exists_append_iff _ _ hfind (fun d hd => ?_) fun p hopen => ?_).symm
    · obtain rfl := List.mem_singleton.mp hd
      exact Nat.le_of_eq hstop
    · -- nothing that is open starts in a declaration
      rw [← hstop]
      refine hopen.free _ ?_ (Nat.zero_le p)
      rw [hfind]
      exact List.mem_append_left _ (List.mem_singleton_self _)

/-- The calls that are open before a token behind the first rewritten one are those of the rest. -/
theorem FirstRewrite.exists_opensCall_iff (h : FirstRewrite f lead token written rest before t)
    {d : Declaration} :
    (∃ p, OpensCall f t (d.shift (before.length + lead.length + token.length)) p) ↔
      ∃ p, OpensCall f rest d p := by
  obtain ⟨kept, hfind, hkept⟩ := h.find_eq
  have hlength : before.length + lead.length + token.length = (before ++ lead ++ token).length := by
    simp only [List.length_append]
  have hsplit : t = before ++ lead ++ token ++ rest := by
    rw [h.split]
    simp only [List.append_assoc]
  have hstop : Declaration.stop ⟨before.length, lead, token⟩ = (before ++ lead ++ token).length :=
    hlength
  rw [hlength] at hfind ⊢
  rw [List.append_cons] at hfind
  have hfirst : (⟨before.length, lead, token⟩ : Declaration) ∈ find t := by
    rw [hfind]
    exact List.mem_append_left _ (List.mem_append_right _ (List.mem_singleton_self _))
  rw [hsplit] at hfind hfirst ⊢
  refine OpensCall.exists_append_iff _ _ hfind (fun d' hd' => ?_) fun p hopen => ?_
  · rcases List.mem_append.mp hd' with hd' | hd'
    · have hle := (hkept d' hd').1
      simp only [List.length_append]
      omega
    · obtain rfl := List.mem_singleton.mp hd'
      exact Nat.le_of_eq hstop
  · -- what is open starts in no declaration, and no token between is rewritten as the first one is
    refine Nat.le_of_not_lt fun hlt => ?_
    have hbefore : p < before.length := by
      refine Nat.lt_of_not_le fun hle => ?_
      have hfree := hopen.free _ hfirst hle
      rw [hstop] at hfree
      exact absurd hlt (Nat.not_lt_of_le hfree)
    have hmoved : before.length < d.start + (before ++ lead ++ token).length := by
      have hpos := List.length_pos_iff.mpr h.declares.lead.ne_nil
      simp only [List.length_append]
      omega
    obtain ⟨e, he⟩ := hopen.kept _ hfirst hbefore hmoved
    rw [h.converts] at he
    cases he

/-- **A written call is recognised unless a call is open before it.** -/
theorem recognised_iff_of_isCall (hcall : ∀ token written, f token = .ok written → IsCall written)
    (t : Text) : ∀ change ∈ conversions f t,
      (Recognised f t change ↔ ¬ ∃ p, OpensCall f t change.1 p) := by
  induction t using rewriteInduction (f := f) with
  | unchanged t hnone _ =>
    rw [hnone]
    exact nofun
  | @rewritten before lead token written rest t h ih =>
    have hwritten := hcall token written h.converts
    obtain ⟨found, hres, hfirst⟩ := h.resumes_of_isCall hwritten
    intro change hchange
    rw [h.conversions_eq] at hchange
    rcases List.mem_cons.mp hchange with rfl | hchange
    · have htoken : IsToken written rest := .call hwritten
      exact (h.recognised_first_iff htoken.ne_nil hres).trans hfirst
    · obtain ⟨change, hin, rfl⟩ := List.mem_map.mp hchange
      rw [h.recognised_rest_iff hres hin, ih change hin, Prod.map_fst, h.exists_opensCall_iff]

end Calls

/-! ## Written hex literals -/

/-- A call that is open before a text is closed in it, with a terminator behind. -/
def ClosesCalls (t : Text) : Prop :=
  ∃ before after, t = before ++ ')' :: after ∧ isTerminated after = true

section ClosesCalls

variable {t w : Text}

theorem ClosesCalls.append (h : ClosesCalls t) (w : Text) : ClosesCalls (w ++ t) := by
  obtain ⟨before, after, rfl, hafter⟩ := h
  exact ⟨w ++ before, after, (List.append_assoc ..).symm, hafter⟩

theorem ClosesCalls.of_append (hw : ')' ∉ w) (h : ClosesCalls (w ++ t)) : ClosesCalls t := by
  obtain ⟨before, after, heq, hafter⟩ := h
  obtain ⟨more, -, rfl⟩ := split_of_notMem hw heq
  exact ⟨more, after, rfl, hafter⟩

theorem closesCalls_of_mem (hw : ')' ∈ w) (ht : isTerminated t = true) : ClosesCalls (w ++ t) := by
  obtain ⟨before, after, rfl⟩ := List.append_of_mem hw
  refine ⟨before, after ++ t, by simp, ?_⟩
  rw [isTerminated_append, ht, Bool.or_true]

/-- Behind the first character a text is terminated if it is behind a later one. -/
theorem isTerminated_of_cons_eq {c d : Char} {before after : Text}
    (heq : c :: t = before ++ d :: after) (hafter : isTerminated after = true) :
    isTerminated t = true := by
  cases before with
  | nil =>
    obtain ⟨-, rfl⟩ := List.cons.inj heq
    exact hafter
  | cons b before =>
    obtain ⟨-, rfl⟩ := List.cons.inj (List.cons_append ▸ heq)
    rw [isTerminated_append, isTerminated_cons, hafter, Bool.or_true, Bool.or_true]

/-- The first closing parenthesis will do. -/
theorem ClosesCalls.exists_first (h : ClosesCalls t) :
    ∃ args after, ')' ∉ args ∧ t = args ++ ')' :: after ∧ isTerminated after = true := by
  obtain ⟨before, after, heq, hafter⟩ := h
  have hmem : ')' ∈ t := by
    rw [heq]
    simp
  obtain ⟨args, behind, rfl, hargs⟩ := List.eq_append_cons_of_mem hmem
  obtain ⟨more, -, hsplit⟩ := split_of_notMem hargs heq
  exact ⟨args, behind, hargs, rfl, isTerminated_of_cons_eq hsplit hafter⟩

/-- What is open before such a text is a declaration. -/
theorem ClosesCalls.startsDeclaration {lead name : Text} (h : ClosesCalls t) (hlead : IsLead lead)
    (hname : IsFunctionName name) : StartsDeclaration (lead ++ (name ++ '(' :: t)) := by
  obtain ⟨args, after, hargs, rfl, hafter⟩ := h.exists_first
  exact ⟨lead, name ++ '(' :: (args ++ [')']), after,
    ⟨hlead, .call ⟨name, args, hname, hargs, rfl⟩, hafter⟩, by simp⟩

/-- Where nothing is written with a closing parenthesis, those of the output are in the text. -/
theorem closesCalls_of_output {f : TokenConverter}
    (hopen : ∀ token written, f token = .ok written → ')' ∉ written)
    (h : ClosesCalls (convertWith f t).output) : ClosesCalls t := by
  induction t using scanInduction with
  | nil =>
    rw [convertWith_nil] at h
    exact h
  | skip c t hno ih =>
    rw [output_cons hno] at h
    by_cases hc : c = ')'
    · obtain ⟨before, after, heq, hafter⟩ := h
      rw [hc]
      exact ⟨[], t, rfl, isTerminated_of_output (isTerminated_of_cons_eq heq hafter)⟩
    · have hfree : ')' ∉ [c] := fun hmem => hc (List.mem_singleton.mp hmem).symm
      exact (ih (.of_append hfree h)).append [c]
  | declaration lead token rest hdecl ih =>
    have hlead : ')' ∉ lead := hdecl.lead.notMem rfl rfl
    cases hf : f token with
    | ok written =>
      rw [output_of_ok hdecl hf] at h
      have hrest := ih (.of_append (hopen token written hf) (.of_append hlead h))
      exact (hrest.append token).append lead
    | error e =>
      rw [output_of_error hdecl hf] at h
      by_cases hmem : ')' ∈ token
      · exact (closesCalls_of_mem hmem hdecl.terminated).append lead
      · exact ((ih (.of_append hmem (.of_append hlead h))).append token).append lead

end ClosesCalls

section HexLiterals

variable {f : TokenConverter} {lead token written rest before t : Text}

theorem Grammar.IsHexLiteral.close_notMem {w : Text} (h : IsHexLiteral w) : ')' ∉ w := by
  obtain ⟨digits, -, hdigits, rfl⟩ := h
  rw [List.mem_cons, not_or]
  exact ⟨by decide, fun hc => absurd (hdigits _ hc) (by decide)⟩

/-- A hex literal opens no declaration before it: a call that was open is not closed by it. -/
theorem FirstRewrite.not_startsDeclaration_output
    (h : FirstRewrite f lead token written rest before t) (hhex : IsHexLiteral written)
    (hcloses : ClosesCalls (convertWith f rest).output → ClosesCalls rest)
    (hno : ¬ StartsDeclaration t) : ¬ StartsDeclaration (convertWith f t).output := by
  rintro ⟨lead', token', tail, hdecl, heq⟩
  obtain ⟨name, inside, args, hname, -, hbefore, hcut, rfl⟩ :=
    h.exists_open hhex.startsToken hno hdecl heq
  -- the literal closes nothing, so the call is closed in the output of the rest, and in the rest
  have hclosed : ClosesCalls (convertWith f rest).output :=
    .of_append hhex.close_notMem ⟨args, tail, hcut, hdecl.terminated⟩
  refine hno ?_
  rw [h.split, ← List.append_assoc, hbefore, List.append_assoc, List.append_assoc, List.cons_append]
  exact (((hcloses hclosed).append token).append inside).startsDeclaration hdecl.lead hname

/-- The scan of the output finds a hex literal that no word character follows. -/
theorem FirstRewrite.resumes_of_isHexLiteral
    (h : FirstRewrite f lead token written rest before t) (hhex : IsHexLiteral written)
    (hcloses : ClosesCalls (convertWith f rest).output → ClosesCalls rest)
    (hnext : notNext isWordChar rest = true) :
    ∃ found, Resumes f t written rest (before ++ lead).length found ∧
      Holds found written (before ++ lead).length := by
  induction h with
  | here hdecl hf =>
    have hwritten : Declares lead written (convertWith f rest).output :=
      ⟨hdecl.lead, .hex hhex (notNext_congr (head?_output rest) ▸ hnext),
        isTerminated_output hdecl.terminated⟩
    exact ⟨_, .of_declares hwritten (output_of_ok hdecl hf) rfl, _, List.mem_singleton_self _, rfl,
      Nat.zero_add _⟩
  | @skip c before t hno h ih =>
    obtain ⟨found, hres, hholds⟩ := ih
    have hnew : ¬ StartsDeclaration (c :: (convertWith f t).output) := by
      rw [← output_cons hno]
      exact (h.skip hno).not_startsDeclaration_output hhex hcloses hno
    exact ⟨_, hres.skip hno hnew, holds_map_shift.mpr hholds⟩
  | @kept lead' token' before t e hdecl hf h ih =>
    obtain ⟨found, hres, hholds⟩ := ih
    have hplace : (lead' ++ (token' ++ before) ++ lead).length =
        (before ++ lead).length + (lead'.length + token'.length) := by
      simp only [List.length_append]
      omega
    rw [hplace]
    exact ⟨_, hres.kept hdecl hf, (holds_kept_iff hdecl.token.ne_nil).mpr hholds⟩

/-- No word character follows a hex literal that is recognised. -/
theorem notNext_of_recognised {change : Declaration × Text} (hchange : change ∈ conversions f t)
    (hhex : IsHexLiteral change.2) (h : Recognised f t change) :
    notNext isWordChar (t.drop change.1.stop) = true := by
  obtain ⟨m, hm, htoken, hstart⟩ := h
  obtain ⟨before, hout, hplace⟩ := exists_output_eq change hchange
  obtain ⟨tail, hdecl, hdrop⟩ := (standsIn_of_mem_find m hm).drop_tokenStart
  have hbefore : before.length = m.tokenStart := Int.ofNat.inj (hplace.trans hstart.symm)
  rw [hout, ← hbefore, List.drop_left, htoken] at hdrop
  rw [← notNext_congr (head?_output _), List.append_cancel_left hdrop]
  obtain ⟨digits, -, -, hspelled⟩ := hhex
  -- a token that starts with a hash is a hex literal, and those end before no word character
  rcases hdecl.token with ⟨hname, -⟩ | ⟨-, hnext⟩ | ⟨name, args, hname, -, hcall⟩
  · rw [htoken, hspelled] at hname
    exact absurd (hname.letters '#' List.mem_cons_self) (by decide)
  · exact hnext
  · rw [htoken, hspelled] at hcall
    exact absurd hcall.symm (append_ne_hash hname.ne_nil hname.letters)

/-- **Written hex literals are recognised unless one of them stands before a word character.** That
one may go on into the property of the next declaration, so others can be lost with it. -/
theorem recognised_iff_of_isHexLiteral
    (hhex : ∀ token written, f token = .ok written → IsHexLiteral written) (t : Text) :
    (∀ change ∈ conversions f t, Recognised f t change) ↔
      ∀ change ∈ conversions f t, notNext isWordChar (t.drop change.1.stop) = true := by
  have hopen : ∀ token written, f token = .ok written → ')' ∉ written :=
    fun token written hf => (hhex token written hf).close_notMem
  constructor
  · intro hall change hchange
    have hwritten := hhex _ _ (of_mem_conversions hchange).2
    exact notNext_of_recognised hchange hwritten (hall change hchange)
  · induction t using rewriteInduction (f := f) with
    | unchanged t hnone _ =>
      rw [hnone]
      exact nofun
    | @rewritten before lead token written rest t h ih =>
      intro hall
      rw [h.conversions_eq] at hall ⊢
      obtain ⟨hfirst, hrest⟩ := List.forall_mem_cons.mp hall
      have hnext : notNext isWordChar rest = true := by
        have hdrop := h.drop_add 0
        rw [Nat.zero_add, List.drop_zero] at hdrop
        rw [← hdrop]
        exact hfirst
      have hwritten := hhex token written h.converts
      obtain ⟨found, hres, hholds⟩ :=
        h.resumes_of_isHexLiteral hwritten (closesCalls_of_output hopen) hnext
      refine List.forall_mem_cons.mpr ⟨?_, List.forall_mem_map.mpr fun change hchange => ?_⟩
      · exact (h.recognised_first_iff (IsToken.hex hwritten hnext).ne_nil hres).mpr hholds
      · refine (h.recognised_rest_iff hres hchange).mpr
          (ih (fun change hchange => ?_) change hchange)
        have hone := hrest _ (List.mem_map_of_mem hchange)
        rwa [Prod.map_fst, shift_stop, h.drop_add] at hone

end HexLiterals

/-! ## Targets -/

/-- A converted token is a notation of the target, whatever options it takes from the token. -/
theorem exists_written_of_convertToken {l : ColorLibrary} {o : Options} {token written : Text}
    (h : l.convertToken o token = .ok written) :
    ∃ (color : Color) (o' : Options), o'.target = o.target ∧ color.written o' = .ok written := by
  rw [ColorLibrary.convertToken] at h
  split at h
  · cases h
  · obtain ⟨color, -, hwritten⟩ := ColorLibrary.render_eq_ok_iff.mp h
    exact ⟨color, o.withExplicitAlpha (hasExplicitAlpha token), rfl, hwritten⟩

/-- **Which rewritten declarations are recognised**, with every colour library. With a function as
target those that no open call stands before; with hex all, unless one stands before a word
character. -/
theorem convert_recognised (l : ColorLibrary) (o : Options) (t : Text) :
    if o.target = .hex then
      (∀ change ∈ conversions (l.convertToken o) t, Recognised (l.convertToken o) t change) ↔
        ∀ change ∈ conversions (l.convertToken o) t,
          notNext isWordChar (t.drop change.1.stop) = true
    else
      ∀ change ∈ conversions (l.convertToken o) t,
        (Recognised (l.convertToken o) t change ↔
          ¬ ∃ p, OpensCall (l.convertToken o) t change.1 p) := by
  split
  · rename_i ho
    refine recognised_iff_of_isHexLiteral (fun token written h => ?_) t
    obtain ⟨color, o', htarget, hcolor⟩ := exists_written_of_convertToken h
    exact isHexLiteral_of_written (htarget.trans ho) hcolor
  · rename_i ho
    refine recognised_iff_of_isCall (fun token written h => ?_) t
    obtain ⟨color, o', htarget, hcolor⟩ := exists_written_of_convertToken h
    exact isCall_of_written (htarget ▸ ho) hcolor

/-- Not all are: as a hex literal, a call goes on into the word behind it. -/
theorem exists_not_recognised : ¬ ∀ (o : Options) (t : Text),
    ∀ change ∈ conversions (convertToken o) t, Recognised (convertToken o) t change := by
  intro hall
  have hdecl : Declares "background:".toList "rgb(1 2 3)".toList "no-repeat;".toList := by
    have hname : ∀ c ∈ "background".toList, isPropertyChar c = true :=
      List.all_eq_true.mp (by decide)
    refine ⟨⟨"background".toList, [], [], Or.inr ⟨by decide, hname⟩, nofun, nofun, by decide⟩,
      .call ⟨"rgb".toList, "1 2 3".toList, by decide, by decide, by decide⟩, by decide⟩
  have hhex : (convertToken ⟨.hex, 2, true, false⟩ "rgb(1 2 3)".toList).toOption =
      some "#010203".toList := by
    decide +kernel
  have hdigits : ∀ c ∈ "010203".toList, isHexDigit c = true := List.all_eq_true.mp (by decide)
  have hchange := conversions_declaration (convertToken ⟨.hex, 2, true, false⟩) hdecl
  rw [hhex] at hchange
  have hmem : (⟨0, "background:".toList, "rgb(1 2 3)".toList⟩, "#010203".toList) ∈
      conversions (convertToken ⟨.hex, 2, true, false⟩)
        ("background:".toList ++ ("rgb(1 2 3)".toList ++ "no-repeat;".toList)) := by
    rw [hchange]
    exact List.mem_cons_self
  have hnext := notNext_of_recognised hmem ⟨"010203".toList, by decide, hdigits, by decide⟩
    (hall _ _ _ hmem)
  exact absurd hnext (by decide)

end CssColor
