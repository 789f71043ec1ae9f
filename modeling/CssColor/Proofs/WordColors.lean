import CssColor.Proofs.ByteFixpoint
import CssColor.Proofs.LetterCase
import CssColor.Proofs.Totality

/-!
# Names and hex literals always convert

The words of the grammar and the digits of its hex literals are in no particular
letter case; a library for colours is asked for them in small letters. What it is
asked for is a word or a literal again, so all that it is expected to do is to read
those, and to convert what it has read.

- `IsPlainColor`: a colour name or a hex literal in small letters;
  `IsColorName.plain`, `IsHexLiteral.plain`: what a token that is no call is made into
  before it is read.
- `ColorScience.ReadsPlain`, `ColorScience.ConvertsPlain`: what is expected of a
  library; `ColorScience.readsPlain_own`, `ColorScience.convertsPlain_own`: **the
  readers of this development do the one, and its conversions to sRGB and HSL the
  other.**
- `OnlyCallsFail`: all that is reported is calls, and every other token is rewritten.
- `convert_onlyCallsFail`: **so it is in every text and under all options.**
-/

namespace CssColor

open Declaration Grammar

/-! ## Small letters -/

namespace Grammar

/-- A colour name or a hex literal, in small letters. -/
def IsPlainColor (w : Text) : Prop :=
  w ∈ colorWords ∨ IsHexLiteral w ∧ w.map Char.toLower = w

/-- A name in small letters without the blanks around it is one of the words. -/
theorem IsColorName.plain {token : Text} (h : IsColorName token) :
    IsPlainColor token.trim.lowercase := by
  have htoken : IsToken token [] := .name h rfl
  rw [htoken.trim_eq, lowercase_of_letters h.letters]
  exact Or.inl h

theorem lowercase_of_isHexLiteral {w : Text} (h : IsHexLiteral w) :
    w.lowercase = w.map Char.toLower := by
  obtain ⟨digits, -, hdigits, rfl⟩ := h
  exact congrArg ('#' :: ·) (List.map_congr_left fun d hd => lowercaseChar_of_isNameChar
    (isNameChar_of_isWordChar (isWordChar_of_isHexDigit (hdigits d hd))))

/-- A hex literal in small letters without the blanks around it is a hex literal. -/
theorem IsHexLiteral.plain {token : Text} (h : IsHexLiteral token) :
    IsPlainColor token.trim.lowercase := by
  have htoken : IsToken token [] := .hex h rfl
  have hsmall : (token.map Char.toLower).map Char.toLower = token.map Char.toLower := by
    rw [List.map_map]
    exact List.map_congr_left fun c _ => toLower_toLower c
  rw [htoken.trim_eq, lowercase_of_isHexLiteral h]
  exact Or.inr ⟨h.congr hsmall.symm, hsmall⟩

end Grammar

/-! ## What is expected of a library -/

namespace ColorScience

variable {s : ColorScience} {o : Options}

/-- A library reads every colour name and every hex literal in small letters as a colour of
sRGB. -/
def ReadsPlain (s : ColorScience) : Prop :=
  ∀ w, IsPlainColor w → ∃ c, s.parse? w = some c ∧ c.space = .srgb

/-- A library converts to a space what it reads for these; there is nothing to convert for sRGB. -/
def ConvertsPlain (s : ColorScience) (space : Space) : Prop :=
  space ≠ .srgb → ∀ w c, IsPlainColor w → s.parse? w = some c → ∃ c', s.convert? c space = some c'

/-- What is read in small letters and converted is written. -/
theorem ReadsPlain.exists_converted (hread : s.ReadsPlain)
    (hconvert : s.ConvertsPlain o.target.space) {token : Text}
    (htoken : IsPlainColor token.trim.lowercase) :
    ∃ written, s.library.convertToken o token = .ok written := by
  obtain ⟨c, hparse, hsrgb⟩ := hread _ htoken
  have hspace : ∃ c', s.library.inSpace? c o.target.space = some c' := by
    by_cases h : c.space = o.target.space
    · exact ⟨c, if_pos h⟩
    · obtain ⟨c', hc'⟩ := hconvert (fun heq => h (hsrgb.trans heq.symm)) _ c htoken hparse
      exact ⟨c', (if_neg h).trans hc'⟩
  obtain ⟨c', hc'⟩ := hspace
  cases hresult : s.library.convertToken o token with
  | ok written => exact ⟨written, rfl⟩
  | error e =>
    have hnone : (s.library.convertToken o token).toOption = none := by
      rw [hresult]
      rfl
    have hfails := ColorLibrary.convertToken_eq_none_iff.mp hnone c hparse
    rw [hc'] at hfails
    cases hfails

end ColorScience

/-! ## The readers of this development -/

theorem exists_hexValue? {d : Char} (h : isHexDigit d = true) : ∃ n, hexValue? d = some n := by
  rw [isHexDigit, isAsciiDigit, Bool.or_eq_true, Bool.or_eq_true, Bool.and_eq_true,
    Bool.and_eq_true, Bool.and_eq_true] at h
  simp only [decide_eq_true_eq] at h
  rw [hexValue?]
  split_ifs with hdigit hsmall hcapital
  · exact ⟨_, rfl⟩
  · exact ⟨_, rfl⟩
  · exact ⟨_, rfl⟩
  · exact (h.elim (fun h => h.elim hdigit hsmall) hcapital).elim

/-- Hexadecimal digits have values. -/
theorem exists_hexValues? {digits : Text} (h : ∀ d ∈ digits, isHexDigit d = true) :
    ∃ ds : List ℕ, hexValues? digits = some ds ∧ ds.length = digits.length := by
  induction digits with
  | nil => exact ⟨[], rfl, rfl⟩
  | cons d digits ih =>
    obtain ⟨hd, hmore⟩ := List.forall_mem_cons.mp h
    obtain ⟨ds, hds, hlength⟩ := ih hmore
    obtain ⟨n, hn⟩ := exists_hexValue? hd
    refine ⟨n :: ds, ?_, congrArg _ hlength⟩
    rw [hexValues?, hn, hds]

/-- A hex literal has a colour. -/
theorem exists_hexColor? {digits : Text} (hcount : digits.length ∈ [3, 4, 6, 8])
    (hdigits : ∀ d ∈ digits, isHexDigit d = true) :
    ∃ c, hexColor? digits = some c ∧ c.space = .srgb := by
  obtain ⟨ds, hds, hlength⟩ := exists_hexValues? hdigits
  rw [← hlength] at hcount
  rw [hexColor?, hds]
  rcases ds with _ | ⟨a, _ | ⟨b, _ | ⟨c, _ | ⟨d, _ | ⟨e, _ | ⟨f, _ | ⟨g, _ | ⟨h, _ | ⟨i, ds⟩⟩⟩⟩⟩⟩⟩⟩⟩
  -- three, four, six and eight digits, and those that are too few, between or too many
  case cons.cons.cons.nil => exact ⟨_, rfl, rfl⟩
  case cons.cons.cons.cons.nil => exact ⟨_, rfl, rfl⟩
  case cons.cons.cons.cons.cons.cons.nil => exact ⟨_, rfl, rfl⟩
  case cons.cons.cons.cons.cons.cons.cons.cons.nil => exact ⟨_, rfl, rfl⟩
  all_goals simp at hcount

namespace ColorScience

/-- **The readers of this development read names and hex literals.** -/
theorem readsPlain_own : own.ReadsPlain := by
  intro w hw
  rw [parse?_own]
  rcases hw with hword | ⟨⟨digits, hcount, hdigits, rfl⟩, -⟩
  · obtain ⟨c, hcolor⟩ := mem_colorWords_iff.mp hword
    refine ⟨c, ?_, space_of_nameColor? hcolor⟩
    cases w with
    | nil => exact absurd rfl (colorWords_spelling _ hword).1.1
    | cons d w =>
      have hletter := (colorWords_spelling _ hword).1.2 d List.mem_cons_self
      rw [Color.parse?, hcolor]
      rintro digits hdigits
      rw [(List.cons.inj hdigits).1] at hletter
      exact absurd hletter (by decide)
  · exact exists_hexColor? hcount hdigits

/-- **Their conversions to sRGB and to HSL succeed**: HSL stands on sRGB, and no curve lies
between them. -/
theorem convertsPlain_own {space : Space} (h : space = .srgb ∨ space = .hsl) :
    own.ConvertsPlain space := by
  intro hne w c hw hparse
  obtain rfl : space = .hsl := h.resolve_left hne
  obtain ⟨c', hc', hsrgb⟩ := readsPlain_own w hw
  rw [hparse] at hc'
  cases hc'
  show ∃ c', c.inSpace? .hsl = some c'
  rw [Color.inSpace?, hsrgb]
  exact ⟨_, rfl⟩

end ColorScience

/-! ## Conversions -/

/-- All that is reported is calls; what becomes of every other token is written where the token has
moved to. -/
structure OnlyCallsFail (f : TokenConverter) (t : Text) : Prop where
  errors : ∀ token ∈ (convertWith f t).errorColors, IsCall token ∧ '(' ∈ token
  rewritten : ∀ d ∈ find t, IsColorName d.token ∨ IsHexLiteral d.token →
    ∃ written before, f d.token = .ok written ∧ (d, written) ∈ conversions f t ∧
      (convertWith f t).output = before ++ (written ++ (convertWith f (t.drop d.stop)).output) ∧
      (before.length : Int) = movedTo (conversions f t) d.tokenStart

/-- A conversion of all names and hex literals fails for calls only. -/
theorem onlyCallsFail_of_converts {f : TokenConverter}
    (h : ∀ token, IsColorName token ∨ IsHexLiteral token → ∃ written, f token = .ok written)
    (t : Text) : OnlyCallsFail f t where
  errors token hmem := by
    rw [errorColors_convertWith, List.mem_filter, decide_eq_true_eq] at hmem
    obtain ⟨d, hd, rfl⟩ := List.mem_map.mp hmem.1
    obtain ⟨-, rest, hdeclares, -, -⟩ := standsIn_of_mem_find d hd
    have hconverts : IsColorName d.token ∨ IsHexLiteral d.token → False := by
      intro hplain
      obtain ⟨written, hwritten⟩ := h _ hplain
      rw [hwritten] at hmem
      cases hmem.2
    rcases hdeclares.token with ⟨hname, -⟩ | ⟨hhex, -⟩ | hcall
    · exact (hconverts (Or.inl hname)).elim
    · exact (hconverts (Or.inr hhex)).elim
    · refine ⟨hcall, ?_⟩
      obtain ⟨name, args, -, -, heq⟩ := hcall
      rw [heq]
      exact List.mem_append_right name List.mem_cons_self
  rewritten d hd hplain := by
    obtain ⟨written, hwritten⟩ := h _ hplain
    have hmem : (d, written) ∈ conversions f t :=
      List.mem_filterMap.mpr ⟨d, hd, by rw [hwritten]; rfl⟩
    obtain ⟨before, houtput, hbefore⟩ := exists_output_eq _ hmem
    exact ⟨written, before, hwritten, hmem, houtput, hbefore⟩

/-- **Only calls fail**: with every library that reads names and hex literals and converts what it
reads for them, and so with the readers of this development, whose conversions to sRGB and HSL never
fail. -/
theorem convert_onlyCallsFail (o : Options) :
    (∀ s : ColorScience, s.ReadsPlain → s.ConvertsPlain o.target.space →
      ∀ t, OnlyCallsFail (s.library.convertToken o) t) ∧
    (ColorScience.own.ConvertsPlain o.target.space → ∀ t, OnlyCallsFail (convertToken o) t) ∧
    (o.target.space = .srgb ∨ o.target.space = .hsl → ∀ t, OnlyCallsFail (convertToken o) t) := by
  have hlibrary : ∀ s : ColorScience, s.ReadsPlain → s.ConvertsPlain o.target.space →
      ∀ t, OnlyCallsFail (s.library.convertToken o) t := by
    intro s hread hconvert
    refine onlyCallsFail_of_converts fun token htoken => ?_
    exact hread.exists_converted hconvert (htoken.elim IsColorName.plain IsHexLiteral.plain)
  have hown : ColorScience.own.ConvertsPlain o.target.space →
      ∀ t, OnlyCallsFail (convertToken o) t := by
    intro hconvert t
    have h := hlibrary .own ColorScience.readsPlain_own hconvert t
    rwa [ColorScience.library_own, ColorLibrary.convertToken_own] at h
  exact ⟨hlibrary, hown, fun hspace => hown (ColorScience.convertsPlain_own hspace)⟩

/-- A name in capitals is rewritten. -/
theorem convert_onlyCallsFail_red :
    ColorScience.own.ReadsPlain ∧
      ColorScience.own.ConvertsPlain (Options.target ⟨.hsl, 2, true, false⟩).space ∧
      find ("color".toList ++ ": ".toList ++ "RED".toList ++ [';']) =
        [⟨0, "color".toList ++ ": ".toList, "RED".toList⟩] ∧
      ∃ before,
        (convert ⟨.hsl, 2, true, false⟩
            ("color".toList ++ ": ".toList ++ "RED".toList ++ [';'])).output =
          before ++ ("hsl(0 100% 50%)".toList ++
            (convert ⟨.hsl, 2, true, false⟩ [';']).output) := by
  have hread := ColorScience.readsPlain_own
  have hconvert : ColorScience.own.ConvertsPlain (Options.target ⟨.hsl, 2, true, false⟩).space :=
    ColorScience.convertsPlain_own (Or.inr rfl)
  have hred : IsColorName "RED".toList := by decide +kernel
  have hname : IsPropertyName "color".toList :=
    Or.inr ⟨by decide, List.all_eq_true.mp (by decide)⟩
  have hfind := find_property hname (.name hred rfl)
  have hfails := (convert_onlyCallsFail ⟨.hsl, 2, true, false⟩).1 .own hread hconvert
    ("color".toList ++ ": ".toList ++ "RED".toList ++ [';'])
  rw [ColorScience.library_own, ColorLibrary.convertToken_own] at hfails
  obtain ⟨written, before, hwritten, -, houtput, -⟩ := hfails.rewritten
    ⟨0, "color".toList ++ ": ".toList, "RED".toList⟩ (by rw [hfind]; exact List.mem_cons_self)
    (Or.inl hred)
  have hhsl : convertToken ⟨.hsl, 2, true, false⟩ "RED".toList = .ok "hsl(0 100% 50%)".toList := by
    decide +kernel
  obtain rfl := Except.ok.inj (hwritten.symm.trans hhsl)
  exact ⟨hread, hconvert, hfind, before, houtput⟩

end CssColor
