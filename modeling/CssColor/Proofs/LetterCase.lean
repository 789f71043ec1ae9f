import CssColor.Proofs.Accounting
import CssColor.Proofs.AlphaSpelling
import CssColor.Proofs.Rewriting

/-!
# Letter case

Names, hex digits and keywords are read in either case, each in a way of its own:
the grammar has classes with both cases and words that are compared in small
letters, colours are read from a text made small, and an alpha is looked for in
the text as it is. That none of these ways tells more cases apart than another
is said here of two conversions at once.

- `SameLetters`: two texts are the same up to the case of ASCII letters.
- `Caseless`: a class holds a letter in both cases or in none.
- `Declares.congr`, `find_toLower`: the grammar and the scan ignore case.
- `ColorScience.readsAnyCase_library`: so does a reader that is asked for small
  letters.
- `IgnoresCase`, `ColorLibrary.ReadsAnyCase.ignoresCase`: so does then the conversion
  of tokens.
- `convert_ignores_case`: **texts with the same letters are converted alike**.
-/

namespace CssColor

open Declaration Grammar

/-! ## Texts with the same letters -/

/-- Two texts are the same up to the case of ASCII letters. -/
def SameLetters (t t' : Text) : Prop :=
  t.map Char.toLower = t'.map Char.toLower

instance (t t' : Text) : Decidable (SameLetters t t') :=
  inferInstanceAs (Decidable (_ = _))

/-- A class of characters holds a letter in both cases or in none. -/
def Caseless (p : Char → Bool) : Prop :=
  ∀ c, p c.toLower = p c

section Characters

variable {p : Char → Bool} {c c' : Char}

/-- A class that holds all letters, or none, is caseless. -/
theorem caseless_of_letters {b : Bool} (h : ∀ c, isAsciiLetter c = true → p c = b) :
    Caseless p := by
  intro c
  cases hc : isAsciiLetter c with
  | true => rw [h c hc, h _ (isAsciiLetter_toLower.trans hc)]
  | false => rw [toLower_eq_self (isAsciiLetter_toLower.trans hc)]

/-- A character that is no letter has one case. -/
theorem eq_of_toLower_eq (hc : isAsciiLetter c = false) (h : c.toLower = c'.toLower) : c = c' := by
  have hsame : c.toLower = c := toLower_eq_self (isAsciiLetter_toLower.trans hc)
  rw [hsame] at h
  rw [h]
  exact toLower_eq_self (h ▸ hc)

theorem caseless_sign {sign : Char} (h : isAsciiLetter sign = false) : Caseless (· == sign) := by
  refine caseless_of_letters (b := false) fun c hc => ?_
  rw [beq_eq_false_iff_ne]
  rintro rfl
  rw [h] at hc
  cases hc

theorem caseless_isNameChar : Caseless isNameChar :=
  caseless_of_letters fun _ => isNameChar_of_isAsciiLetter

theorem caseless_isWordChar : Caseless isWordChar :=
  caseless_of_letters fun _ h => isWordChar_iff.mpr (Or.inl h)

theorem caseless_isPropertyChar : Caseless isPropertyChar :=
  caseless_of_letters fun _ h => isPropertyChar_iff.mpr (Or.inl h)

theorem caseless_isCssBlank : Caseless isCssBlank :=
  caseless_of_letters fun _ h => isCssBlank_eq_false_of_isNameChar (isNameChar_of_isAsciiLetter h)

theorem caseless_isBlank : Caseless isBlank :=
  caseless_of_letters fun _ h => isBlank_eq_false_of_isNameChar (isNameChar_of_isAsciiLetter h)

theorem caseless_isHexDigit : Caseless isHexDigit := by
  intro c
  rw [Bool.eq_iff_iff, isHexDigit_iff, isHexDigit_iff, toNat_toLower]
  split <;> omega

/-- Letters are parts of words in every script. -/
theorem caseless_isWordLike : Caseless isWordLike :=
  caseless_of_letters fun _ h => isWordLike_of_isWordChar (isWordChar_iff.mpr (Or.inl h))

theorem caseless_terminator : Caseless fun c => c == ';' || c == '\x7d' := by
  intro c
  have hsemicolon : (c.toLower == ';') = (c == ';') := caseless_sign rfl c
  have hbrace : (c.toLower == '\x7d') = (c == '\x7d') := caseless_sign rfl c
  show ((c.toLower == ';') || (c.toLower == '\x7d')) = _
  rw [hsemicolon, hbrace]

end Characters

namespace SameLetters

variable {t t' u u' w w' : Text} {c c' : Char} {p : Char → Bool}

theorem refl (t : Text) : SameLetters t t := rfl

theorem symm (h : SameLetters t t') : SameLetters t' t := Eq.symm h

theorem length_eq (h : SameLetters t t') : t.length = t'.length := by
  have hlength := congrArg List.length h
  rwa [List.length_map, List.length_map] at hlength

theorem append (h : SameLetters t t') (hu : SameLetters u u') :
    SameLetters (t ++ u) (t' ++ u') := by
  rw [SameLetters, List.map_append, List.map_append, h, hu]

theorem cons (hc : c.toLower = c'.toLower) (h : SameLetters t t') :
    SameLetters (c :: t) (c' :: t') := by
  rw [SameLetters, List.map_cons, List.map_cons, hc, h]

theorem exists_append (h : SameLetters (t ++ u) w) :
    ∃ t' u', w = t' ++ u' ∧ SameLetters t t' ∧ SameLetters u u' := by
  rw [SameLetters, List.map_append] at h
  obtain ⟨t', u', hsplit, ht, hu⟩ := List.map_eq_append_iff.mp h.symm
  exact ⟨t', u', hsplit, ht.symm, hu.symm⟩

theorem exists_cons (h : SameLetters (c :: t) w) :
    ∃ c' t', w = c' :: t' ∧ c.toLower = c'.toLower ∧ SameLetters t t' := by
  rw [SameLetters, List.map_cons] at h
  obtain ⟨c', t', hsplit, hc, ht⟩ := List.map_eq_cons_iff.mp h.symm
  exact ⟨c', t', hsplit, hc.symm, ht.symm⟩

/-- A sign has one case only. -/
theorem exists_sign (hc : isAsciiLetter c = false) (h : SameLetters (c :: t) w) :
    ∃ t', w = c :: t' ∧ SameLetters t t' := by
  obtain ⟨c', t', rfl, hsame, ht⟩ := h.exists_cons
  rw [eq_of_toLower_eq hc hsame]
  exact ⟨t', rfl, ht⟩

theorem eq_nil (h : SameLetters [] t) : t = [] :=
  List.map_eq_nil_iff.mp (Eq.symm h)

theorem any_eq (hp : Caseless p) (h : SameLetters t t') : t.any p = t'.any p := by
  have hmap : ∀ u : Text, (u.map Char.toLower).any p = u.any p := by
    intro u
    rw [List.any_map]
    exact congrArg u.any (funext hp)
  rw [← hmap, h, hmap]

theorem forall_mem (hp : Caseless p) (h : SameLetters t t') (ht : ∀ c ∈ t, p c = true) :
    ∀ c ∈ t', p c = true := by
  intro c' hc'
  have hmem : c'.toLower ∈ t.map Char.toLower := by
    rw [h]
    exact List.mem_map_of_mem hc'
  obtain ⟨c, hc, hsame⟩ := List.mem_map.mp hmem
  rw [← hp, ← hsame, hp]
  exact ht c hc

theorem notMem (hc : isAsciiLetter c = false) (h : SameLetters t t') (ht : c ∉ t) : c ∉ t' := by
  intro hmem
  have hany := h.any_eq (caseless_sign hc)
  rw [List.any_beq', List.any_beq', List.contains_iff_mem.mpr hmem] at hany
  exact ht (List.contains_iff_mem.mp hany)

theorem notNext_eq (hp : Caseless p) (h : SameLetters t t') : notNext p t = notNext p t' := by
  cases t with
  | nil => rw [h.eq_nil]
  | cons c t =>
    obtain ⟨c', u, rfl, hc, -⟩ := h.exists_cons
    rw [notNext_cons, notNext_cons, ← hp c, hc, hp]

theorem isTerminated_eq (h : SameLetters t t') : isTerminated t = isTerminated t' :=
  h.any_eq caseless_terminator

end SameLetters

/-! ## The grammar -/

namespace Grammar

variable {w w' rest rest' : Text}

theorem IsPropertyName.congr (h : IsPropertyName w) (hw : SameLetters w w') :
    IsPropertyName w' := by
  rcases h with ⟨v, hne, hv, rfl⟩ | ⟨hne, hin⟩
  · obtain ⟨u, rfl, hu⟩ := hw.exists_sign rfl
    obtain ⟨v', rfl, hsame⟩ := hu.exists_sign rfl
    refine Or.inl ⟨v', ?_, hsame.forall_mem caseless_isNameChar hv, rfl⟩
    rintro rfl
    exact hne hsame.symm.eq_nil
  · refine Or.inr ⟨?_, hw.forall_mem caseless_isPropertyChar hin⟩
    rintro rfl
    exact hne hw.symm.eq_nil

theorem IsLead.congr (h : IsLead w) (hw : SameLetters w w') : IsLead w' := by
  obtain ⟨name, before, after, hname, hbefore, hafter, rfl⟩ := h
  obtain ⟨name', u, rfl, hsame, hu⟩ := hw.exists_append
  obtain ⟨before', v, rfl, hblanks, hv⟩ := hu.exists_append
  obtain ⟨after', rfl, hend⟩ := hv.exists_sign rfl
  exact ⟨name', before', after', hname.congr hsame,
    hblanks.forall_mem caseless_isCssBlank hbefore, hend.forall_mem caseless_isCssBlank hafter, rfl⟩

theorem IsColorName.congr (h : IsColorName w) (hw : SameLetters w w') : IsColorName w' := by
  -- names are compared in small letters
  rw [IsColorName, ← hw]
  exact h

theorem IsFunctionName.congr (h : IsFunctionName w) (hw : SameLetters w w') :
    IsFunctionName w' := by
  rw [IsFunctionName, ← hw]
  exact h

theorem IsHexLiteral.congr (h : IsHexLiteral w) (hw : SameLetters w w') : IsHexLiteral w' := by
  obtain ⟨digits, hlength, hdigits, rfl⟩ := h
  obtain ⟨digits', rfl, hsame⟩ := hw.exists_sign rfl
  exact ⟨digits', hsame.length_eq ▸ hlength, hsame.forall_mem caseless_isHexDigit hdigits, rfl⟩

theorem IsCall.congr (h : IsCall w) (hw : SameLetters w w') : IsCall w' := by
  -- the signs of a call have one case, so the other text is split at the same places
  obtain ⟨name, args, hname, hargs, rfl⟩ := h
  obtain ⟨name', u, rfl, hsame, hu⟩ := hw.exists_append
  obtain ⟨v, rfl, hv⟩ := hu.exists_sign rfl
  obtain ⟨args', close, rfl, hinside, hclose⟩ := hv.exists_append
  obtain ⟨nothing, rfl, hnothing⟩ := hclose.exists_sign rfl
  rw [hnothing.eq_nil]
  exact ⟨name', args', hname.congr hsame, hinside.notMem rfl hargs, rfl⟩

theorem IsToken.congr (h : IsToken w rest) (hw : SameLetters w w')
    (hrest : SameLetters rest rest') : IsToken w' rest' := by
  rcases h with ⟨hname, hnext⟩ | ⟨hhex, hnext⟩ | hcall
  · exact .name (hname.congr hw) (hrest.notNext_eq caseless_isNameChar ▸ hnext)
  · exact .hex (hhex.congr hw) (hrest.notNext_eq caseless_isWordChar ▸ hnext)
  · exact .call (hcall.congr hw)

theorem Declares.congr {lead lead' token token' : Text} (h : Declares lead token rest)
    (hlead : SameLetters lead lead') (htoken : SameLetters token token')
    (hrest : SameLetters rest rest') : Declares lead' token' rest' where
  lead := h.lead.congr hlead
  token := h.token.congr htoken hrest
  terminated := hrest.isTerminated_eq ▸ h.terminated

theorem StartsDeclaration.congr {t t' : Text} (h : StartsDeclaration t) (ht : SameLetters t t') :
    StartsDeclaration t' := by
  obtain ⟨lead, token, rest, hdecl, rfl⟩ := h
  obtain ⟨lead', u, rfl, hlead, hu⟩ := ht.exists_append
  obtain ⟨token', rest', rfl, htoken, hrest⟩ := hu.exists_append
  exact ⟨lead', token', rest', hdecl.congr hlead htoken hrest, rfl⟩

end Grammar

/-! ## The scan -/

namespace Declaration

/-- The declaration with all letters small. -/
def toLower (d : Declaration) : Declaration :=
  { d with lead := d.lead.map Char.toLower, token := d.token.map Char.toLower }

section ToLower

variable (d : Declaration)

@[simp] theorem toLower_tokenStart : d.toLower.tokenStart = d.tokenStart := by
  rw [tokenStart, tokenStart, toLower, List.length_map]

@[simp] theorem toLower_stop : d.toLower.stop = d.stop := by
  rw [stop, stop, toLower_tokenStart, toLower, List.length_map]

/-- Where the declaration starts, where its token starts and where both end. -/
def places : Nat × Nat × Nat :=
  (d.start, d.tokenStart, d.stop)

theorem toLower_places : d.toLower.places = d.places := by
  rw [places, places, toLower_tokenStart, toLower_stop]
  rfl

end ToLower

/-- What does not tell cases apart is the same of two lists with the same letters. -/
theorem map_eq_of_toLower {α : Type} {ds ds' : List Declaration} {g : Declaration → α}
    (hg : ∀ d : Declaration, g d.toLower = g d) (h : ds.map toLower = ds'.map toLower) :
    ds.map g = ds'.map g := by
  have hsmall : ∀ items : List Declaration, (items.map toLower).map g = items.map g := by
    intro items
    rw [List.map_map]
    exact congrArg (List.map · items) (funext hg)
  rw [← hsmall, h, hsmall]

/-- **The scan ignores case.** -/
theorem find_toLower {t t' : Text} (h : SameLetters t t') :
    (find t).map toLower = (find t').map toLower := by
  have hmoved : ∀ {ds ds' : List Declaration} (n : Nat), ds.map toLower = ds'.map toLower →
      (ds.map (shift n)).map toLower = (ds'.map (shift n)).map toLower := by
    intro ds ds' n hsame
    rw [List.map_map, List.map_map]
    have hswap := congrArg (List.map (shift n)) hsame
    rw [List.map_map, List.map_map] at hswap
    exact hswap
  induction t using scanInduction generalizing t' with
  | nil => rw [h.eq_nil]
  | skip c t hno ih =>
    obtain ⟨c', u, rfl, hc, hu⟩ := h.exists_cons
    have hno' : ¬ StartsDeclaration (c' :: u) := fun hstart => hno (hstart.congr h.symm)
    rw [find_cons hno, find_cons hno']
    exact hmoved 1 (ih hu)
  | declaration lead token rest hdecl ih =>
    obtain ⟨lead', u, rfl, hlead, hu⟩ := h.exists_append
    obtain ⟨token', rest', rfl, htoken, hrest⟩ := hu.exists_append
    rw [find_declaration hdecl, find_declaration (hdecl.congr hlead htoken hrest), List.map_cons,
      List.map_cons, hlead.length_eq, htoken.length_eq, hmoved _ (ih hrest)]
    refine congrArg (· :: _) ?_
    rw [toLower, toLower, hlead, htoken]

end Declaration

/-! ## Tokens -/

/-- A conversion of tokens does not look at the case of ASCII letters. -/
def IgnoresCase (f : TokenConverter) : Prop :=
  ∀ token, (f (token.map Char.toLower)).toOption = (f token).toOption

theorem dropWhile_toLower {p : Char → Bool} (hp : Caseless p) (t : Text) :
    (t.map Char.toLower).dropWhile p = (t.dropWhile p).map Char.toLower := by
  rw [List.dropWhile_map]
  exact congrArg (fun q => (t.dropWhile q).map Char.toLower) (funext hp)

theorem trim_toLower (t : Text) : Text.trim (t.map Char.toLower) = t.trim.map Char.toLower := by
  rw [Text.trim, Text.trim, Text.trimStart, Text.trimStart, Text.trimEnd, Text.trimEnd,
    dropWhile_toLower caseless_isBlank, ← List.map_reverse, dropWhile_toLower caseless_isBlank,
    List.map_reverse]

/-- A character that is no letter is not what another one becomes when it is made small. -/
theorem toLower_eq_iff {c sign : Char} (hsign : isAsciiLetter sign = false) :
    c.toLower = sign ↔ c = sign := by
  have hsame : sign.toLower = sign := toLower_eq_self (isAsciiLetter_toLower.trans hsign)
  constructor
  · intro h
    exact (eq_of_toLower_eq hsign (hsame.trans h.symm)).symm
  · rintro rfl
    exact hsame

theorem toLower_toLower (c : Char) : c.toLower.toLower = c.toLower := by
  rw [← Char.toNat_inj, toNat_toLower, toNat_toLower]
  split
  · rw [if_neg (by omega)]
  · rfl

theorem lowercase_toLower (t : Text) : Text.lowercase (t.map Char.toLower) = t.lowercase := by
  rw [Text.lowercase, List.map_map]
  refine congrArg (List.map · t) (funext fun c => ?_)
  rw [Function.comp_apply, lowercaseChar, lowercaseChar, toLower_toLower]
  simp only [@toLower_eq_iff _ '\u212a' (by decide)]

/-- A colour library reads a token in either case. -/
def ColorLibrary.ReadsAnyCase (l : ColorLibrary) : Prop :=
  ∀ token : Text, l.read? (token.map Char.toLower) = l.read? token

/-- **What is read in small letters is read in any case**, whatever the library. -/
theorem ColorScience.readsAnyCase_library (s : ColorScience) : s.library.ReadsAnyCase := by
  intro token
  show s.parse? (Text.trim (token.map Char.toLower)).lowercase = s.parse? token.trim.lowercase
  rw [trim_toLower, lowercase_toLower]

theorem ColorLibrary.readsAnyCase_own : own.ReadsAnyCase := by
  rw [← ColorScience.library_own]
  exact ColorScience.readsAnyCase_library .own

theorem startsWithAlphaFunction_toLower (t : Text) :
    startsWithAlphaFunction (t.map Char.toLower) = startsWithAlphaFunction t := by
  -- four letters and an opening parenthesis are looked at
  rcases t with _ | ⟨a, _ | ⟨b, _ | ⟨c, _ | ⟨d, _ | ⟨e, t⟩⟩⟩⟩⟩
  · rfl
  · rfl
  · rfl
  · rfl
  · rfl
  · by_cases he : e = '('
    · rw [he]
      have hopen : '('.toLower = '(' := by decide
      simp only [List.map_cons, hopen, startsWithAlphaFunction, toLower_toLower,
        @toLower_eq_iff _ '\u017f' (by decide)]
    · have hopen : e.toLower ≠ '(' := mt (toLower_eq_iff (by decide)).mp he
      simp [startsWithAlphaFunction, he, hopen]

theorem startsWithDigitsOfWord_toLower (count : Nat) (t : Text) :
    startsWithDigitsOfWord count (t.map Char.toLower) = startsWithDigitsOfWord count t := by
  rw [startsWithDigitsOfWord, startsWithDigitsOfWord, ← List.map_take, ← List.map_drop,
    List.length_map, List.all_map, List.head?_map, Option.any_map]
  have hdigit : isHexDigit ∘ Char.toLower = isHexDigit := funext caseless_isHexDigit
  have hword : (fun c : Char => isWordLike c.toLower) = isWordLike := funext caseless_isWordLike
  rw [hdigit, hword]

theorem startsWithAlphaHex_toLower (t : Text) :
    startsWithAlphaHex (t.map Char.toLower) = startsWithAlphaHex t := by
  cases t with
  | nil => rfl
  | cons c t =>
    by_cases hc : c = '#'
    · rw [hc]
      have hhash : '#'.toLower = '#' := by decide
      simp only [List.map_cons, hhash, startsWithAlphaHex, startsWithDigitsOfWord_toLower]
    · have hhash : c.toLower ≠ '#' := mt (toLower_eq_iff (by decide)).mp hc
      simp [startsWithAlphaHex, hc, hhash]

/-- An alpha is spelled out in either case. -/
theorem hasExplicitAlpha_toLower (token : Text) :
    hasExplicitAlpha (token.map Char.toLower) = hasExplicitAlpha token := by
  have hslash : ∀ t : Text, (t.map Char.toLower).contains '/' = t.contains '/' := by
    intro t
    rw [← List.any_beq', ← List.any_beq', List.any_map]
    exact congrArg t.any (funext (caseless_sign rfl))
  rw [hasExplicitAlpha, hasExplicitAlpha, trim_toLower, hslash, startsWithAlphaFunction_toLower,
    startsWithAlphaHex_toLower, lowercase_toLower]

/-- **The conversion of tokens ignores case** if their reader does: all that it takes from a token
it finds in either case. -/
theorem ColorLibrary.ReadsAnyCase.ignoresCase {l : ColorLibrary} (hl : l.ReadsAnyCase)
    (o : Options) : IgnoresCase (l.convertToken o) := by
  intro token
  rw [ColorLibrary.convertToken, ColorLibrary.convertToken, hl, hasExplicitAlpha_toLower]
  cases l.read? token <;> rfl

/-! ## Conversions -/

theorem IgnoresCase.eq_of_sameLetters {f : TokenConverter} (hf : IgnoresCase f)
    {token token' : Text} (h : SameLetters token token') :
    (f token).toOption = (f token').toOption := by
  rw [← hf, h, hf]

/-- Two texts are converted alike: the same declarations are rewritten, in the same way. -/
structure ConvertAlike (f : TokenConverter) (t t' : Text) : Prop where
  /-- The declarations stand at the same places. -/
  places : (find t).map Declaration.places = (find t').map Declaration.places
  /-- The same ones are rewritten, with the same notations. -/
  written : (find t).map (fun d => (f d.token).toOption) =
    (find t').map fun d => (f d.token).toOption
  editsApplied : (convertWith f t).editsApplied = (convertWith f t').editsApplied
  /-- The tokens that are reported are the same, but for their case. -/
  errorColors : (convertWith f t).errorColors.map (List.map Char.toLower) =
    (convertWith f t').errorColors.map (List.map Char.toLower)
  output : SameLetters (convertWith f t).output (convertWith f t').output
  /-- What is written for a token stands at the same place of both outputs, as it is spelled. -/
  spelled : ∀ change ∈ conversions f t, ∃ place : Nat,
    (place : Int) = movedTo (conversions f t) change.1.tokenStart ∧
      (convertWith f t).output.slice place (place + change.2.length) = change.2 ∧
      (convertWith f t').output.slice place (place + change.2.length) = change.2

section Alike

variable {f : TokenConverter} {t t' : Text}

theorem sameLetters_output (hf : IgnoresCase f) (h : SameLetters t t') :
    SameLetters (convertWith f t).output (convertWith f t').output := by
  induction t using scanInduction generalizing t' with
  | nil =>
    rw [h.eq_nil]
    exact .refl _
  | skip c t hno ih =>
    obtain ⟨c', u, rfl, hc, hu⟩ := h.exists_cons
    have hno' : ¬ StartsDeclaration (c' :: u) := fun hstart => hno (hstart.congr h.symm)
    rw [output_cons hno, output_cons hno']
    exact .cons hc (ih hu)
  | declaration lead token rest hdecl ih =>
    obtain ⟨lead', u, rfl, hlead, hu⟩ := h.exists_append
    obtain ⟨token', rest', rfl, htoken, hrest⟩ := hu.exists_append
    have hdecl' := hdecl.congr hlead htoken hrest
    -- both tokens get one notation, or both are kept
    have hsame := hf.eq_of_sameLetters htoken
    cases hok : f token with
    | ok written =>
      cases hok' : f token' with
      | ok written' =>
        rw [hok, hok'] at hsame
        cases hsame
        rw [output_of_ok hdecl hok, output_of_ok hdecl' hok']
        exact hlead.append ((SameLetters.refl _).append (ih hrest))
      | error e' =>
        rw [hok, hok'] at hsame
        cases hsame
    | error e =>
      cases hok' : f token' with
      | ok written' =>
        rw [hok, hok'] at hsame
        cases hsame
      | error e' =>
        rw [output_of_error hdecl hok, output_of_error hdecl' hok']
        exact hlead.append (htoken.append (ih hrest))

/-- The changes are the same, but for the case of the declarations. -/
theorem conversions_toLower (hf : IgnoresCase f) (h : SameLetters t t') :
    (conversions f t).map (Prod.map Declaration.toLower id) =
      (conversions f t').map (Prod.map Declaration.toLower id) := by
  have hsmall : ∀ ds : List Declaration,
      (ds.filterMap fun d => (f d.token).toOption.map (d, ·)).map
          (Prod.map Declaration.toLower id) =
        (ds.map Declaration.toLower).filterMap fun d => (f d.token).toOption.map (d, ·) := by
    intro ds
    rw [List.map_filterMap, List.filterMap_map]
    refine congrArg (List.filterMap · ds) (funext fun d => ?_)
    show _ = (f (d.token.map Char.toLower)).toOption.map _
    rw [hf]
    cases (f d.token).toOption <;> rfl
  rw [conversions, conversions, hsmall, hsmall, find_toLower h]

theorem movedTo_toLower (changes : List (Declaration × Text)) (offset : Nat) :
    movedTo (changes.map (Prod.map Declaration.toLower id)) offset = movedTo changes offset := by
  have hgrowth : growth (changes.map (Prod.map Declaration.toLower id)) (offset + 0) =
      growth changes offset :=
    growth_map toLower_stop fun _ => List.length_map _
  rw [movedTo, movedTo, ← hgrowth, Nat.add_zero]

theorem errorColors_toLower (hf : IgnoresCase f) (h : SameLetters t t') :
    (convertWith f t).errorColors.map (List.map Char.toLower) =
      (convertWith f t').errorColors.map (List.map Char.toLower) := by
  have hsmall : ∀ ds : List Declaration,
      ((ds.map Declaration.token).filter fun token => (f token).toOption = none).map
          (List.map Char.toLower) =
        ((ds.map Declaration.toLower).map Declaration.token).filter fun token =>
          (f token).toOption = none := by
    intro ds
    have htokens : (ds.map Declaration.toLower).map Declaration.token =
        (ds.map Declaration.token).map (List.map Char.toLower) := by
      rw [List.map_map, List.map_map]
      rfl
    rw [htokens]
    generalize ds.map Declaration.token = tokens
    rw [List.filter_map]
    refine congrArg (List.map _) (List.filter_congr fun token _ => ?_)
    rw [Function.comp_apply, hf]
  rw [errorColors_convertWith, errorColors_convertWith, hsmall, hsmall, find_toLower h]

/-- **Texts with the same letters are converted alike** by whatever ignores the case of tokens. -/
theorem convertAlike_of_ignoresCase (hf : IgnoresCase f) (h : SameLetters t t') :
    ConvertAlike f t t' where
  places := map_eq_of_toLower toLower_places (find_toLower h)
  written := map_eq_of_toLower (fun d => hf d.token) (find_toLower h)
  editsApplied := by
    have hfound := congrArg List.length (find_toLower h)
    have herrors := congrArg List.length (errorColors_toLower hf h)
    rw [List.length_map, List.length_map] at hfound herrors
    have htotal := editsApplied_add_errorColors f t
    have htotal' := editsApplied_add_errorColors f t'
    omega
  errorColors := errorColors_toLower hf h
  output := sameLetters_output hf h
  spelled change hchange := by
    -- the same change of the other text is written at the same place
    have hmem : Prod.map Declaration.toLower id change ∈
        (conversions f t').map (Prod.map Declaration.toLower id) := by
      rw [← conversions_toLower hf h]
      exact List.mem_map_of_mem hchange
    obtain ⟨change', hchange', hsame⟩ := List.mem_map.mp hmem
    obtain ⟨before, hout, hplace⟩ := exists_output_eq change hchange
    obtain ⟨before', hout', hplace'⟩ := exists_output_eq change' hchange'
    have hwritten : change'.2 = change.2 := (Prod.ext_iff.mp hsame).2
    have hstart : change'.1.tokenStart = change.1.tokenStart := by
      rw [← toLower_tokenStart, ← toLower_tokenStart change.1]
      exact congrArg tokenStart (Prod.ext_iff.mp hsame).1
    have hlength : before'.length = before.length := by
      rw [← movedTo_toLower, ← conversions_toLower hf h, movedTo_toLower, hstart,
        ← hplace] at hplace'
      exact Int.ofNat.inj hplace'
    refine ⟨before.length, hplace, ?_, ?_⟩
    · rw [hout]
      exact Text.slice_append ..
    · rw [hout', ← hlength, hwritten]
      exact Text.slice_append ..

end Alike

/-- **Conversion ignores letter case**: texts with the same letters have their declarations at the
same places, rewritten alike, and their outputs have the same letters. So it is with every colour
library whose reader ignores case, as all do that are asked for small letters, and with the one of
this development. -/
theorem convert_ignores_case (o : Options) {t t' : Text} (h : SameLetters t t') :
    (∀ l : ColorLibrary, l.ReadsAnyCase → ConvertAlike (l.convertToken o) t t') ∧
      (∀ s : ColorScience, ConvertAlike (s.library.convertToken o) t t') ∧
      ConvertAlike (convertToken o) t t' := by
  have hlibrary : ∀ l : ColorLibrary, l.ReadsAnyCase → ConvertAlike (l.convertToken o) t t' :=
    fun _ hl => convertAlike_of_ignoresCase (hl.ignoresCase o) h
  exact ⟨hlibrary, fun s => hlibrary _ s.readsAnyCase_library,
    hlibrary .own ColorLibrary.readsAnyCase_own⟩

/-- A fill in capitals, and the same one in small letters. -/
theorem convert_ignores_case_red :
    SameLetters "Fill: RED; stroke: Nope(1);".toList "fill: Red; STROKE: nope(1);".toList ∧
      ColorLibrary.own.ReadsAnyCase ∧ ConvertAlike (convertToken ⟨.hex, 2, true, false⟩)
        "Fill: RED; stroke: Nope(1);".toList "fill: Red; STROKE: nope(1);".toList := by
  have hsame : SameLetters "Fill: RED; stroke: Nope(1);".toList
      "fill: Red; STROKE: nope(1);".toList := by
    decide
  have hlibrary := ColorLibrary.readsAnyCase_own
  exact ⟨hsame, hlibrary, (convert_ignores_case _ hsame).1 .own hlibrary⟩

end CssColor
