import CssColor.Alpha
import CssColor.Proofs.Scan

/-!
# Tokens that spell out their alpha

Whether a token writes its alpha is looked up in the token as it stands, by rules
that know nothing of the grammar: blanks at the ends are passed over, a hex literal
ends where no letter of any script goes on, and the long `s` counts as the letter.
A token that is found begins and ends as the grammar has it, so none of these rules
ever tells a difference.

- `IsToken.trim_eq`: no token has blanks at its ends.
- `hasExplicitAlpha_name`, `hasExplicitAlpha_digits`, `hasExplicitAlpha_call`: what
  the rules say of a token of each form.
- `SpellsAlpha`: the tokens that write their alpha, by their form alone.
- `hasExplicitAlpha_of_mem_find`: **a token that is found counts as writing its alpha
  just if its form does**.
-/

namespace CssColor

open Grammar

/-! ## Ends of a token -/

/-- A text without blanks at its ends is not trimmed. -/
theorem trim_eq_self {c d : Char} {t u : Text} (hc : isBlank c = false) (hd : isBlank d = false)
    (h : c :: t = u ++ [d]) : Text.trim (c :: t) = c :: t := by
  have hstart : Text.trimStart (c :: t) = u ++ [d] := by
    rw [Text.trimStart, List.dropWhile_cons, hc, ← h]
    rfl
  rw [Text.trim, hstart, Text.trimEnd, List.reverse_append, List.reverse_singleton,
    List.singleton_append, List.dropWhile_cons, hd, h]
  simp

/-- A text that starts with no blank and has name characters behind its start is not trimmed. -/
theorem trim_eq_self_of_nameChars {c : Char} {t : Text} (hc : isBlank c = false)
    (ht : ∀ d ∈ t, isNameChar d = true) : Text.trim (c :: t) = c :: t := by
  rcases List.eq_nil_or_concat t with rfl | ⟨u, d, rfl⟩
  · exact trim_eq_self (u := []) hc hc rfl
  · have hd : isBlank d = false :=
      isBlank_eq_false_of_isNameChar (ht d (by simp))
    exact trim_eq_self (u := c :: u) hc hd (by simp)

namespace Grammar

/-- A letter is no blank. -/
theorem isBlank_eq_false_of_isAsciiLetter {c : Char} (h : isAsciiLetter c = true) :
    isBlank c = false :=
  isBlank_eq_false_of_isNameChar (isNameChar_of_isAsciiLetter h)

/-- **No token has blanks at its ends.** -/
theorem IsToken.trim_eq {token rest : Text} (h : IsToken token rest) : token.trim = token := by
  rcases h with ⟨hw, -⟩ | ⟨⟨digits, -, hdigits, rfl⟩, -⟩ | ⟨name, args, hname, -, rfl⟩
  · cases token with
    | nil => exact absurd rfl hw.ne_nil
    | cons c t =>
      have hletters := List.forall_mem_cons.mp hw.letters
      exact trim_eq_self_of_nameChars (isBlank_eq_false_of_isAsciiLetter hletters.1)
        fun d hd => isNameChar_of_isAsciiLetter (hletters.2 d hd)
  · exact trim_eq_self_of_nameChars (by decide)
      fun d hd => isNameChar_of_isWordChar (isWordChar_of_isHexDigit (hdigits d hd))
  · cases name with
    | nil => exact absurd rfl hname.ne_nil
    | cons c name =>
      have hc := isBlank_eq_false_of_isAsciiLetter (hname.letters c List.mem_cons_self)
      exact trim_eq_self (u := c :: (name ++ '(' :: args)) (d := ')') hc (by decide) (by simp)

end Grammar

/-! ## Calls -/

/-- The functions that always have an alpha. -/
def alphaFunctions : List Text :=
  ["rgba".toList, "hsla".toList]

/-- The letter that a character counts as in the name of a function: the long `s` is one. -/
def letterForm (c : Char) : Char :=
  if c = '\u017f' then 's' else c.toLower

theorem letterForm_of_isAsciiLetter {c : Char} (h : isAsciiLetter c = true) :
    letterForm c = c.toLower := by
  refine if_neg ?_
  rintro rfl
  exact absurd h (by decide)

/-- Four characters and a parenthesis are looked at. -/
theorem startsWithAlphaFunction_iff {t : Text} :
    startsWithAlphaFunction t = true ↔
      ∃ w rest, t = w ++ '(' :: rest ∧ w.map letterForm ∈ alphaFunctions := by
  have hfour : ∀ a b c d : Char, ∀ rest : Text,
      startsWithAlphaFunction (a :: b :: c :: d :: '(' :: rest) = true ↔
        [a, b, c, d].map letterForm ∈ alphaFunctions := by
    intro a b c d rest
    rw [startsWithAlphaFunction, alphaFunctions, List.mem_cons, List.mem_singleton,
      Bool.or_eq_true, beq_iff_eq, beq_iff_eq]
    rfl
  constructor
  · intro h
    have hshape : ∃ a b c d rest, t = a :: b :: c :: d :: '(' :: rest := by
      unfold startsWithAlphaFunction at h
      split at h
      · exact ⟨_, _, _, _, _, rfl⟩
      · cases h
    obtain ⟨a, b, c, d, rest, rfl⟩ := hshape
    exact ⟨[a, b, c, d], rest, rfl, (hfour a b c d rest).mp h⟩
  · rintro ⟨w, rest, rfl, hw⟩
    have hlength : w.length = 4 := by
      have hall : ∀ v ∈ alphaFunctions, v.length = 4 := by decide
      rw [← hall _ hw, List.length_map]
    match w, hlength with
    | [a, b, c, d], _ => exact (hfour a b c d rest).mpr hw

/-- **A call starts like one that always has an alpha just if it is one**: the name of a function
holds no long `s`, and the first parenthesis stands behind it. -/
theorem startsWithAlphaFunction_call {name more : Text}
    (hname : ∀ c ∈ name, isAsciiLetter c = true) :
    startsWithAlphaFunction (name ++ '(' :: more) = true ↔
      name.map Char.toLower ∈ alphaFunctions := by
  have hforms : name.map letterForm = name.map Char.toLower :=
    List.map_congr_left fun c hc => letterForm_of_isAsciiLetter (hname c hc)
  rw [startsWithAlphaFunction_iff, ← hforms]
  constructor
  · rintro ⟨w, rest, heq, hw⟩
    have hopen : '(' ∉ name := fun hc => absurd (hname _ hc) (by decide)
    have hopen' : '(' ∉ w := by
      have hall : ∀ v ∈ alphaFunctions, letterForm '(' ∉ v := by decide
      exact fun hc => hall _ hw (List.mem_map_of_mem hc)
    obtain ⟨rfl, -⟩ := close_inj hopen hopen' heq
    exact hw
  · intro hw
    exact ⟨name, more, rfl, hw⟩

/-! ## Hex literals -/

/-- A name character counts as part of a word in every script, if it is no hyphen. -/
theorem isWordLike_of_isWordChar {c : Char} (h : isWordChar c = true) : isWordLike c = true := by
  have hdigits : (0x30, 0x39) ∈ wordRanges := by decide
  have hcapitals : (0x41, 0x5a) ∈ wordRanges := by decide
  have hunderscore : (0x5f, 0x5f) ∈ wordRanges := by decide
  have hsmall : (0x61, 0x7a) ∈ wordRanges := by decide
  rw [isWordLike, CodeRanges.has, List.any_eq_true]
  rw [isWordChar_iff, isAsciiLetter_iff, isAsciiDigit_iff] at h
  rcases h with (hc | hc) | hc | hc
  · exact ⟨_, hsmall, by simp; omega⟩
  · exact ⟨_, hcapitals, by simp; omega⟩
  · exact ⟨_, hdigits, by simp; omega⟩
  · exact ⟨_, hunderscore, by simp; omega⟩

/-- **Digits are a literal of just as many digits as they are**: where more digits follow, no word
ends. -/
theorem startsWithDigitsOfWord_iff {digits : Text} {count : Nat}
    (hdigits : ∀ d ∈ digits, isHexDigit d = true) :
    startsWithDigitsOfWord count digits = true ↔ digits.length = count := by
  have hall : (digits.take count).all isHexDigit = true :=
    List.all_eq_true.mpr fun d hd => hdigits d (List.mem_of_mem_take hd)
  rw [startsWithDigitsOfWord, hall, Bool.and_true, Bool.and_eq_true, beq_iff_eq, List.length_take,
    Bool.not_eq_true', List.head?_drop]
  constructor
  · rintro ⟨hlength, hnext⟩
    by_cases hmore : count < digits.length
    · rw [List.getElem?_eq_getElem hmore] at hnext
      have hword := isWordLike_of_isWordChar
        (isWordChar_of_isHexDigit (hdigits _ (List.getElem_mem hmore)))
      exact absurd hword (Bool.eq_false_iff.mp hnext)
    · omega
  · rintro rfl
    rw [List.getElem?_eq_none (Nat.le_refl _)]
    exact ⟨Nat.min_self _, rfl⟩

/-! ## Tokens of each form -/

/-- The rules for a text that is not trimmed. -/
theorem hasExplicitAlpha_iff_of_trim {t : Text} (h : t.trim = t) :
    hasExplicitAlpha t = true ↔ '/' ∈ t ∨ startsWithAlphaFunction t = true ∨
      startsWithAlphaHex t = true ∨ t.lowercase = "transparent".toList := by
  rw [hasExplicitAlpha, h, Bool.or_eq_true, Bool.or_eq_true, Bool.or_eq_true,
    List.contains_iff_mem, beq_iff_eq, or_assoc, or_assoc]

/-- The letters of names are made small in one way. -/
theorem lowercase_of_letters {w : Text} (hw : ∀ c ∈ w, isAsciiLetter c = true) :
    w.lowercase = w.map Char.toLower :=
  List.map_congr_left fun c hc =>
    lowercaseChar_of_isNameChar (isNameChar_of_isAsciiLetter (hw c hc))

theorem startsWithAlphaHex_of_ne {c : Char} (hc : c ≠ '#') (t : Text) :
    startsWithAlphaHex (c :: t) = false := by
  simp [startsWithAlphaHex, hc]

/-- **A name writes its alpha** if it is the word for no colour at all. -/
theorem hasExplicitAlpha_name {w : Text} (hw : IsColorName w) :
    hasExplicitAlpha w = true ↔ w.map Char.toLower = "transparent".toList := by
  have hsign : ∀ {c : Char}, isAsciiLetter c = false → c ∉ w := by
    intro c hc hmem
    rw [hw.letters c hmem] at hc
    cases hc
  have hcall : startsWithAlphaFunction w = false := by
    rw [Bool.eq_false_iff, ne_eq, startsWithAlphaFunction_iff]
    rintro ⟨v, rest, rfl, -⟩
    exact hsign (c := '(') rfl (by simp)
  have hhex : startsWithAlphaHex w = false := by
    cases w with
    | nil => rfl
    | cons c t => exact startsWithAlphaHex_of_ne (fun h => hsign (c := '#') rfl (by simp [h])) t
  have htoken : IsToken w [] := .name hw rfl
  rw [hasExplicitAlpha_iff_of_trim htoken.trim_eq, hcall, hhex,
    lowercase_of_letters hw.letters, or_iff_right (hsign rfl), or_iff_right Bool.false_ne_true,
    or_iff_right Bool.false_ne_true]

/-- **A hex literal writes its alpha** if it has four or eight digits. -/
theorem hasExplicitAlpha_digits {digits : Text} (hcount : digits.length ∈ [3, 4, 6, 8])
    (hdigits : ∀ d ∈ digits, isHexDigit d = true) :
    hasExplicitAlpha ('#' :: digits) = true ↔ digits.length = 4 ∨ digits.length = 8 := by
  have hsign : ∀ {c : Char}, c ≠ '#' → isHexDigit c = false → c ∉ '#' :: digits := by
    intro c hne hc hmem
    rcases List.mem_cons.mp hmem with rfl | hmem
    · exact hne rfl
    · rw [hdigits c hmem] at hc
      cases hc
  have hcall : startsWithAlphaFunction ('#' :: digits) = false := by
    rw [Bool.eq_false_iff, ne_eq, startsWithAlphaFunction_iff]
    rintro ⟨v, rest, heq, -⟩
    exact hsign (c := '(') (by decide) rfl (by rw [heq]; simp)
  have hword : Text.lowercase ('#' :: digits) ≠ "transparent".toList := by
    intro heq
    have hfirst : lowercaseChar '#' = 't' := (List.cons.inj heq).1
    exact absurd hfirst (by decide)
  have htoken : IsToken ('#' :: digits) [] := .hex ⟨digits, hcount, hdigits, rfl⟩ rfl
  rw [hasExplicitAlpha_iff_of_trim htoken.trim_eq, hcall, startsWithAlphaHex, Bool.or_eq_true,
    startsWithDigitsOfWord_iff hdigits, startsWithDigitsOfWord_iff hdigits,
    or_iff_right (hsign (by decide) rfl), or_iff_right Bool.false_ne_true, or_iff_left hword]

theorem slash_mem_call {name args : Text} (hname : IsFunctionName name) :
    '/' ∈ name ++ '(' :: (args ++ [')']) ↔ '/' ∈ args := by
  simp [hname.notMem (c := '/') rfl]

/-- **A call writes its alpha** if a slash stands in its arguments, or its function always has
one. -/
theorem hasExplicitAlpha_call {name args : Text} (hname : IsFunctionName name)
    (hargs : ')' ∉ args) :
    hasExplicitAlpha (name ++ '(' :: (args ++ [')'])) = true ↔
      '/' ∈ args ∨ name.map Char.toLower ∈ alphaFunctions := by
  have hhex : startsWithAlphaHex (name ++ '(' :: (args ++ [')'])) = false := by
    cases name with
    | nil => rfl
    | cons c name =>
      refine startsWithAlphaHex_of_ne ?_ _
      rintro rfl
      exact absurd (hname.letters _ List.mem_cons_self) (by decide)
  -- the parenthesis is left when letters are made small
  have hword : Text.lowercase (name ++ '(' :: (args ++ [')'])) ≠ "transparent".toList := by
    intro heq
    have hopen : lowercaseChar '(' ∈ Text.lowercase (name ++ '(' :: (args ++ [')'])) :=
      List.mem_map_of_mem (by simp)
    rw [heq] at hopen
    exact absurd hopen (by decide)
  have htoken : IsToken (name ++ '(' :: (args ++ [')'])) [] :=
    .call ⟨name, args, hname, hargs, rfl⟩
  rw [hasExplicitAlpha_iff_of_trim htoken.trim_eq, slash_mem_call hname,
    startsWithAlphaFunction_call hname.letters, hhex, or_iff_right Bool.false_ne_true,
    or_iff_left hword]

/-! ## Tokens that are found -/

/-- The forms of tokens that write their alpha. -/
inductive SpellsAlpha (token : Text) : Prop where
  /-- A call with a slash. -/
  | slash (hcall : IsCall token) (hslash : '/' ∈ token)
  /-- A call of `rgba` or `hsla` in any letter case. -/
  | function {name more : Text} (hcall : IsCall token) (htoken : token = name ++ '(' :: more)
    (hname : name.map Char.toLower ∈ alphaFunctions)
  /-- A hex literal of four or eight digits. -/
  | digits {digits : Text} (htoken : token = '#' :: digits)
    (hdigits : ∀ d ∈ digits, isHexDigit d = true) (hcount : digits.length = 4 ∨ digits.length = 8)
  /-- The word `transparent` in any letter case. -/
  | transparent (hword : token.map Char.toLower = "transparent".toList)

theorem spellsAlpha_name {w : Text} (hw : IsColorName w) :
    SpellsAlpha w ↔ w.map Char.toLower = "transparent".toList := by
  have hnoCall : ¬ IsCall w := by
    rintro ⟨name, args, hname, -, heq⟩
    exact hw.append_ne_call (t := []) rfl hname ((List.append_nil w).trans heq)
  constructor
  · rintro (⟨hcall, -⟩ | ⟨hcall, -, -⟩ | ⟨htoken, -, -⟩ | hword)
    · exact absurd hcall hnoCall
    · exact absurd hcall hnoCall
    · exact absurd ((List.append_nil w).trans htoken) (append_ne_hash hw.ne_nil hw.letters)
    · exact hword
  · exact .transparent

theorem spellsAlpha_digits {digits : Text} (hdigits : ∀ d ∈ digits, isHexDigit d = true) :
    SpellsAlpha ('#' :: digits) ↔ digits.length = 4 ∨ digits.length = 8 := by
  have hnoCall : ¬ IsCall ('#' :: digits) := by
    rintro ⟨name, args, hname, -, heq⟩
    exact append_ne_hash hname.ne_nil hname.letters heq.symm
  constructor
  · rintro (⟨hcall, -⟩ | ⟨hcall, -, -⟩ | ⟨htoken, -, hcount⟩ | hword)
    · exact absurd hcall hnoCall
    · exact absurd hcall hnoCall
    · rwa [(List.cons.inj htoken).2]
    · have hfirst : '#'.toLower = 't' := (List.cons.inj hword).1
      exact absurd hfirst (by decide)
  · exact .digits rfl hdigits

theorem spellsAlpha_call {name args : Text} (hname : IsFunctionName name) (hargs : ')' ∉ args) :
    SpellsAlpha (name ++ '(' :: (args ++ [')'])) ↔
      '/' ∈ args ∨ name.map Char.toLower ∈ alphaFunctions := by
  have hcall : IsCall (name ++ '(' :: (args ++ [')'])) := ⟨name, args, hname, hargs, rfl⟩
  constructor
  · rintro (⟨-, hmem⟩ | ⟨-, htoken, hname'⟩ | ⟨htoken, -, -⟩ | hword)
    · exact Or.inl ((slash_mem_call hname).mp hmem)
    · refine Or.inr ?_
      -- the same name stands in front of the first parenthesis
      rename_i name' more
      have hopen : '(' ∉ name' := by
        have hall : ∀ v ∈ alphaFunctions, '('.toLower ∉ v := by decide
        exact fun hc => hall _ hname' (List.mem_map_of_mem hc)
      obtain ⟨rfl, -⟩ := close_inj (hname.notMem rfl) hopen htoken
      exact hname'
    · exact absurd htoken (append_ne_hash hname.ne_nil hname.letters)
    · have hopen : '('.toLower ∈ (name ++ '(' :: (args ++ [')'])).map Char.toLower :=
        List.mem_map_of_mem (by simp)
      rw [hword] at hopen
      exact absurd hopen (by decide)
  · rintro (hmem | hname')
    · exact .slash hcall ((slash_mem_call hname).mpr hmem)
    · exact .function hcall rfl hname'

/-- **A token that is found counts as writing its alpha just if its form does**, and there are no
blanks to be trimmed from it. -/
theorem hasExplicitAlpha_of_mem_find {t : Text} {d : Declaration} (h : d ∈ Declaration.find t) :
    (hasExplicitAlpha d.token = true ↔ SpellsAlpha d.token) ∧ d.token.trim = d.token := by
  obtain ⟨-, rest, hdeclares, -, -⟩ := Declaration.standsIn_of_mem_find d h
  refine ⟨?_, hdeclares.token.trim_eq⟩
  rcases hdeclares.token with ⟨hword, -⟩ | ⟨⟨digits, hcount, hdigits, htoken⟩, -⟩ |
    ⟨name, args, hname, hargs, htoken⟩
  · rw [hasExplicitAlpha_name hword, spellsAlpha_name hword]
  · rw [htoken, hasExplicitAlpha_digits hcount hdigits, spellsAlpha_digits hdigits]
  · rw [htoken, hasExplicitAlpha_call hname hargs, spellsAlpha_call hname hargs]

/-- A hex literal ends in front of an accented letter, and a call is one with any letter in it. -/
theorem hasExplicitAlpha_of_mem_find_letters :
    (⟨0, "a:".toList, "#ABCd".toList⟩ : Declaration) ∈
        Declaration.find ("a:".toList ++ ("#ABCd".toList ++ "\u00e9;".toList)) ∧
      (⟨0, "a:".toList, "RgbA(\u017f)".toList⟩ : Declaration) ∈
        Declaration.find ("a:".toList ++ ("RgbA(\u017f)".toList ++ ";".toList)) ∧
      hasExplicitAlpha "#ABCd".toList = true ∧ hasExplicitAlpha "RgbA(\u017f)".toList = true := by
  have hlead : IsLead "a:".toList :=
    ⟨"a".toList, [], [], Or.inr ⟨by decide, List.all_eq_true.mp rfl⟩, nofun, nofun, rfl⟩
  have hmem : ∀ {token rest : Text}, IsToken token rest → isTerminated rest = true →
      ⟨0, "a:".toList, token⟩ ∈ Declaration.find ("a:".toList ++ (token ++ rest)) := by
    intro token rest htoken hterminated
    rw [Declaration.find_declaration ⟨hlead, htoken, hterminated⟩]
    exact List.mem_cons_self
  have hdigits : ∀ d ∈ "ABCd".toList, isHexDigit d = true := List.all_eq_true.mp rfl
  have hcall : IsCall "RgbA(\u017f)".toList :=
    ⟨"RgbA".toList, ['\u017f'], by decide, by decide, by decide⟩
  have haccent : isTerminated "\u00e9;".toList = true := by decide
  have hhexMem := hmem (.hex ⟨_, by decide, hdigits, rfl⟩ rfl) haccent
  have hcallMem := hmem (.call hcall) (by decide : isTerminated ";".toList = true)
  refine ⟨hhexMem, hcallMem, (hasExplicitAlpha_of_mem_find hhexMem).1.mpr ?_,
    (hasExplicitAlpha_of_mem_find hcallMem).1.mpr ?_⟩
  · exact .digits rfl hdigits (Or.inl rfl)
  · exact @SpellsAlpha.function _ "RgbA".toList "\u017f)".toList hcall rfl (by decide)

end CssColor
