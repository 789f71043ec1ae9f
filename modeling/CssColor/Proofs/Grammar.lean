import CssColor.Proofs.Pattern
import CssColor.Proofs.Vocabulary

/-!
# The grammar of declarations, without its search

The patterns of `Grammar` say how a declaration is searched for. Here the same
grammar is said as a description of texts, and the two are proved to agree:

- `IsLead`, `mem_lead`: a property name, a colon, and blanks around it;
- `IsToken`, `mem_token`: a colour name, a hex literal or a call of a colour
  function, each with what may not follow it;
- `Declares`: a lead, a token and a rest that holds a terminator.

**A text is read in one way only**: `Declares.append_inj`. A name ends where the
name characters end, blanks end where they end, and the arguments of a call end
at the first closing parenthesis, so no part of a declaration can be cut
elsewhere. The shape of numbers in `rgb` calls adds nothing to the calls:
`mem_function_of_mem_byteRgb`.
-/

namespace CssColor

namespace Grammar

/-! ## Runs of a class -/

@[simp] theorem notNext_cons (p : Char → Bool) (c : Char) (t : Text) :
    notNext p (c :: t) = !p c := rfl

/-- What may not come next is settled by the first character. -/
theorem notNext_congr {p : Char → Bool} {t u : Text} (h : t.head? = u.head?) :
    notNext p t = notNext p u := by
  rw [notNext, notNext, h]

/-- A run that is followed by nothing of its class is as long as it can be. -/
theorem takeWhile_run {p : Char → Bool} {w t : Text} (hw : ∀ c ∈ w, p c = true)
    (ht : notNext p t = true) : (w ++ t).takeWhile p = w := by
  rw [List.takeWhile_append_of_pos hw]
  cases t with
  | nil => rw [List.takeWhile_nil, List.append_nil]
  | cons c t =>
    have hc : p c = false := by simpa using ht
    rw [List.takeWhile_cons, hc]
    exact List.append_nil w

/-- A text has one run of a class at its start. -/
theorem run_inj {p : Char → Bool} {w w' t t' : Text} (hw : ∀ c ∈ w, p c = true)
    (hw' : ∀ c ∈ w', p c = true) (ht : notNext p t = true) (ht' : notNext p t' = true)
    (heq : w ++ t = w' ++ t') : w = w' ∧ t = t' := by
  have hsame : w = w' := by rw [← takeWhile_run hw ht, heq, takeWhile_run hw' ht']
  subst hsame
  exact ⟨rfl, List.append_cancel_left heq⟩

/-- What does not hold a character is a part of what stands before its first occurrence. -/
theorem split_of_notMem {c : Char} {w t before after : Text} (hw : c ∉ w)
    (heq : w ++ t = before ++ c :: after) :
    ∃ more, before = w ++ more ∧ t = more ++ c :: after := by
  rcases List.append_eq_append_iff.mp heq with ⟨more, hbefore, ht⟩ | ⟨more, hw', hafter⟩
  · exact ⟨more, hbefore, ht⟩
  · cases more with
    | nil => exact ⟨[], by simpa using hw'.symm, by simpa using hafter.symm⟩
    | cons d more =>
      obtain ⟨rfl, -⟩ := List.cons.inj hafter
      exact absurd (by simp [hw']) hw

/-! ## Leads -/

/-- A property name: two hyphens and name characters, or letters and hyphens. -/
def IsPropertyName (w : Text) : Prop :=
  (∃ v, v ≠ [] ∧ (∀ c ∈ v, isNameChar c = true) ∧ w = '-' :: '-' :: v) ∨
    w ≠ [] ∧ ∀ c ∈ w, isPropertyChar c = true

/-- A property name and its colon, with blanks around the colon. -/
def IsLead (w : Text) : Prop :=
  ∃ name before after, IsPropertyName name ∧ (∀ c ∈ before, isCssBlank c = true) ∧
    (∀ c ∈ after, isCssBlank c = true) ∧ w = name ++ (before ++ ':' :: after)

theorem IsPropertyName.ne_nil {w : Text} (h : IsPropertyName w) : w ≠ [] := by
  rcases h with ⟨v, -, -, rfl⟩ | ⟨hne, -⟩
  · exact List.cons_ne_nil _ _
  · exact hne

theorem IsPropertyName.isNameChar {w : Text} (h : IsPropertyName w) :
    ∀ c ∈ w, isNameChar c = true := by
  rcases h with ⟨v, -, hv, rfl⟩ | ⟨-, hw⟩
  · rintro c (_ | ⟨_, _ | ⟨_, hc⟩⟩)
    · decide
    · decide
    · exact hv c hc
  · exact fun c hc => isNameChar_of_isPropertyChar (hw c hc)

@[simp] theorem mem_propertyName {t rest : Text} :
    rest ∈ propertyName t ↔ ∃ w, IsPropertyName w ∧ t = w ++ rest := by
  simp only [propertyName, Pattern.mem_orElse, Pattern.mem_andThen, Pattern.mem_word,
    Pattern.mem_some]
  constructor
  · rintro (⟨_, ⟨hyphens, hh, rfl⟩, v, hne, hv, rfl⟩ | ⟨w, hne, hw, rfl⟩)
    · obtain rfl : hyphens = ['-', '-'] := map_toLower_eq_self hh rfl
      exact ⟨_, Or.inl ⟨v, hne, hv, rfl⟩, rfl⟩
    · exact ⟨w, Or.inr ⟨hne, hw⟩, rfl⟩
  · rintro ⟨w, ⟨v, hne, hv, rfl⟩ | ⟨hne, hw⟩, rfl⟩
    · exact Or.inl ⟨v ++ rest, ⟨['-', '-'], by decide, rfl⟩, v, hne, hv, rfl⟩
    · exact Or.inr ⟨w, hne, hw, rfl⟩

@[simp] theorem mem_lead {t rest : Text} : rest ∈ lead t ↔ ∃ w, IsLead w ∧ t = w ++ rest := by
  simp only [lead, blanks, Pattern.mem_andThen, mem_propertyName, Pattern.mem_many,
    Pattern.mem_char, beq_iff_eq]
  constructor
  · rintro ⟨_, ⟨name, hname, rfl⟩, _, ⟨before, hbefore, rfl⟩, _, ⟨_, rfl, rfl⟩, after, hafter,
      rfl⟩
    exact ⟨_, ⟨name, before, after, hname, hbefore, hafter, rfl⟩, by simp⟩
  · rintro ⟨_, ⟨name, before, after, hname, hbefore, hafter, rfl⟩, rfl⟩
    exact ⟨_, ⟨name, hname, by simp⟩, _, ⟨before, hbefore, rfl⟩, _, ⟨':', rfl, rfl⟩, after,
      hafter, rfl⟩

/-! ## Tokens -/

/-- A hash and three, four, six or eight hexadecimal digits. -/
def IsHexLiteral (w : Text) : Prop :=
  ∃ digits : Text, digits.length ∈ [3, 4, 6, 8] ∧ (∀ c ∈ digits, isHexDigit c = true) ∧
    w = '#' :: digits

/-- A call of a colour function; its arguments hold no closing parenthesis. -/
def IsCall (w : Text) : Prop :=
  ∃ name args, IsFunctionName name ∧ ')' ∉ args ∧ w = name ++ '(' :: (args ++ [')'])

/-- A colour token, and what follows it. -/
inductive IsToken (token rest : Text) : Prop where
  /-- A name is not followed by a name character. -/
  | name (hname : IsColorName token) (hnext : notNext isNameChar rest = true)
  /-- A hex literal is not followed by a word character. -/
  | hex (hhex : IsHexLiteral token) (hnext : notNext isWordChar rest = true)
  /-- A call may be followed by anything. -/
  | call (hcall : IsCall token)

theorem mem_named {t rest : Text} :
    rest ∈ named tokenNames t ↔
      ∃ w, IsColorName w ∧ notNext isNameChar rest = true ∧ t = w ++ rest := by
  simp only [named, Pattern.mem_andThen, Pattern.mem_anyOf, Pattern.mem_ahead, List.mem_map]
  constructor
  · rintro ⟨_, ⟨_, ⟨word, hword, rfl⟩, hmiddle⟩, hnext, rfl⟩
    obtain ⟨w, hw, rfl⟩ := Pattern.mem_word.mp hmiddle
    have hcolor : IsColorName w := by
      rw [IsColorName, hw]
      exact mem_tokenNames.mp hword
    exact ⟨w, hcolor, hnext, rfl⟩
  · rintro ⟨w, hw, hnext, rfl⟩
    exact ⟨rest, ⟨_, ⟨_, mem_tokenNames.mpr hw, rfl⟩, Pattern.mem_word.mpr ⟨w, rfl, rfl⟩⟩,
      hnext, rfl⟩

theorem mem_hexLiteral {t rest : Text} :
    rest ∈ hexLiteral t ↔
      ∃ w, IsHexLiteral w ∧ notNext isWordChar rest = true ∧ t = w ++ rest := by
  simp only [hexLiteral, Pattern.mem_andThen, Pattern.mem_char, beq_iff_eq, Pattern.mem_anyOf,
    Pattern.mem_ahead, List.mem_map]
  constructor
  · rintro ⟨_, ⟨_, rfl, rfl⟩, _, ⟨_, ⟨n, hn, rfl⟩, hmiddle⟩, hnext, rfl⟩
    obtain ⟨digits, hlen, hdigits, rfl⟩ := Pattern.mem_times.mp hmiddle
    -- four digits are tried before three
    have hcount : digits.length ∈ [3, 4, 6, 8] := by
      rw [hlen]
      simp only [List.mem_cons, List.not_mem_nil, or_false] at hn ⊢
      omega
    exact ⟨_, ⟨digits, hcount, hdigits, rfl⟩, hnext, rfl⟩
  · rintro ⟨_, ⟨digits, hcount, hdigits, rfl⟩, hnext, rfl⟩
    have hn : digits.length ∈ [4, 3, 6, 8] := by
      simp only [List.mem_cons, List.not_mem_nil, or_false] at hcount ⊢
      omega
    exact ⟨_, ⟨'#', rfl, rfl⟩, rest,
      ⟨_, ⟨_, hn, rfl⟩, Pattern.mem_times.mpr ⟨digits, rfl, hdigits, rfl⟩⟩, hnext, rfl⟩

theorem mem_function {t rest : Text} :
    rest ∈ function t ↔ ∃ w, IsCall w ∧ t = w ++ rest := by
  simp only [function, Pattern.mem_andThen, Pattern.mem_anyOf, Pattern.mem_char,
    Pattern.mem_many, beq_iff_eq, bne_iff_ne, ne_eq, List.mem_map]
  constructor
  · rintro ⟨_, ⟨_, ⟨word, hword, rfl⟩, hname⟩, _, ⟨_, rfl, rfl⟩, _, ⟨args, hargs, rfl⟩, _, rfl,
      rfl⟩
    obtain ⟨name, rfl, rfl⟩ := Pattern.mem_word.mp hname
    exact ⟨_, ⟨name, args, hword, fun hc => hargs _ hc rfl, rfl⟩, by simp⟩
  · rintro ⟨_, ⟨name, args, hname, hargs, rfl⟩, rfl⟩
    refine ⟨_, ⟨_, ⟨_, hname, rfl⟩, Pattern.mem_word.mpr ⟨name, rfl, List.append_assoc ..⟩⟩,
      _, ⟨'(', rfl, rfl⟩, _, ⟨args, fun c hc => ?_, List.append_assoc ..⟩, ')', rfl, rfl⟩
    rintro rfl
    exact hargs hc

theorem avoids_blanks : blanks.Avoids ')' :=
  Pattern.avoids_many (by decide)

theorem avoids_byteNumber : byteNumber.Avoids ')' := by
  refine Pattern.avoids_anyOf fun q hq => ?_
  obtain ⟨n, -, rfl⟩ := List.mem_map.mp hq
  exact Pattern.avoids_times (by decide) n

theorem avoids_byteSeparator : byteSeparator.Avoids ')' := by
  have hcomma : (Pattern.char (· == ',')).Avoids ')' := Pattern.avoids_char (by decide)
  exact (avoids_blanks.andThen (hcomma.andThen avoids_blanks)).orElse
    (Pattern.avoids_some (by decide))

theorem avoids_byteAlpha : byteAlpha.Avoids ')' := by
  have hsign : (Pattern.char fun c => c == '/' || c == ',').Avoids ')' :=
    Pattern.avoids_char (by decide)
  have hdigit : (Pattern.char isAsciiDigit).Avoids ')' := Pattern.avoids_char (by decide)
  have hpoint : (Pattern.char (· == '.')).Avoids ')' := Pattern.avoids_char (by decide)
  have hdigits : (Pattern.some isAsciiDigit).Avoids ')' := Pattern.avoids_some (by decide)
  have hpercent : (Pattern.char (· == '%')).Avoids ')' := Pattern.avoids_char (by decide)
  exact avoids_blanks.andThen <| hsign.andThen <| avoids_blanks.andThen <|
    hdigit.maybe.andThen <| hpoint.maybe.andThen <| hdigits.andThen hpercent.maybe

/-- What stands between the parentheses of a call with numbers holds no closing parenthesis, so
such a call is one of the calls with any arguments. -/
theorem mem_function_of_mem_byteRgb {t rest : Text} (h : rest ∈ byteRgb t) :
    rest ∈ function t := by
  have hargs := avoids_blanks.andThen_closes <| avoids_byteNumber.andThen_closes <|
    avoids_byteSeparator.andThen_closes <| avoids_byteNumber.andThen_closes <|
      avoids_byteSeparator.andThen_closes <| avoids_byteNumber.andThen_closes <|
        avoids_byteAlpha.maybe.andThen_closes <| avoids_blanks.andThen_closes Pattern.closes_char
  obtain ⟨_, hrgb, htail⟩ := Pattern.mem_andThen.mp h
  obtain ⟨_, ha, hcall⟩ := Pattern.mem_andThen.mp htail
  obtain ⟨_, hopen, hinside⟩ := Pattern.mem_andThen.mp hcall
  obtain ⟨rgb, hspelled, rfl⟩ := Pattern.mem_word.mp hrgb
  obtain ⟨_, hc, rfl⟩ := Pattern.mem_char.mp hopen
  obtain rfl := eq_of_beq hc
  obtain ⟨args, hfree, rfl⟩ := hargs hinside
  rw [mem_function]
  rcases Pattern.mem_maybe.mp ha with ha | rfl
  · obtain ⟨a, hletter, rfl⟩ := Pattern.mem_word.mp ha
    refine ⟨_, ⟨rgb ++ a, args, ?_, hfree, rfl⟩, by simp⟩
    rw [IsFunctionName, List.map_append, hspelled, hletter]
    decide
  · refine ⟨_, ⟨rgb, args, ?_, hfree, rfl⟩, by simp⟩
    rw [IsFunctionName, hspelled]
    decide

/-- A token in the order of the standard shapes is a token. -/
theorem mem_token {t rest : Text} :
    rest ∈ token standard t ↔ ∃ w, IsToken w rest ∧ t = w ++ rest := by
  have hshapes : rest ∈ token standard t ↔ rest ∈ named tokenNames t ∨ rest ∈ hexLiteral t ∨
      rest ∈ byteRgb t ∨ rest ∈ function t := by
    simp [token, standard, Shape.pattern, Pattern.anyOf]
  rw [hshapes, mem_named, mem_hexLiteral, or_iff_right_of_imp mem_function_of_mem_byteRgb,
    mem_function]
  constructor
  · rintro (⟨w, hw, hnext, rfl⟩ | ⟨w, hw, hnext, rfl⟩ | ⟨w, hw, rfl⟩)
    · exact ⟨w, .name hw hnext, rfl⟩
    · exact ⟨w, .hex hw hnext, rfl⟩
    · exact ⟨w, .call hw, rfl⟩
  · rintro ⟨w, hw | hw | hw, rfl⟩
    · exact Or.inl ⟨w, hw, ‹_›, rfl⟩
    · exact Or.inr (Or.inl ⟨w, hw, ‹_›, rfl⟩)
    · exact Or.inr (Or.inr ⟨w, hw, rfl⟩)

/-! ## One reading only -/

/-- What stands before a character that occurs in neither part is the same. -/
theorem close_inj {c : Char} {w w' t t' : Text} (hw : c ∉ w) (hw' : c ∉ w')
    (heq : w ++ c :: t = w' ++ c :: t') : w = w' ∧ t = t' := by
  have hrun : ∀ {v : Text}, c ∉ v → ∀ d ∈ v, (d != c) = true := by
    intro v hv d hd
    rw [bne_iff_ne]
    rintro rfl
    exact hv hd
  obtain ⟨hsame, htail⟩ := run_inj (hrun hw) (hrun hw') (by simp) (by simp) heq
  exact ⟨hsame, (List.cons.inj htail).2⟩

theorem IsLead.append_inj {w w' t t' : Text} (h : IsLead w) (h' : IsLead w')
    (ht : notNext isCssBlank t = true) (ht' : notNext isCssBlank t' = true)
    (heq : w ++ t = w' ++ t') : w = w' ∧ t = t' := by
  have hcolon : ∀ {blanks u : Text}, (∀ c ∈ blanks, isCssBlank c = true) →
      notNext isNameChar (blanks ++ ':' :: u) = true := by
    intro blanks u hblanks
    cases blanks with
    | nil => rfl
    | cons b blanks =>
      have hb := isNameChar_eq_false_of_isCssBlank (hblanks b List.mem_cons_self)
      rw [List.cons_append, notNext_cons, hb]
      rfl
  obtain ⟨name, before, after, hname, hbefore, hafter, rfl⟩ := h
  obtain ⟨name', before', after', hname', hbefore', hafter', rfl⟩ := h'
  simp only [List.append_assoc, List.cons_append] at heq
  -- the two names, then the blanks before the colon, then those behind it
  obtain ⟨rfl, hblanks⟩ := run_inj hname.isNameChar hname'.isNameChar (hcolon hbefore)
    (hcolon hbefore') heq
  obtain ⟨rfl, hmark⟩ := run_inj hbefore hbefore' rfl rfl hblanks
  obtain ⟨rfl, rfl⟩ := run_inj hafter hafter' ht ht' (List.cons.inj hmark).2
  exact ⟨rfl, rfl⟩

/-- A word of letters does not start with a hash. -/
theorem append_ne_hash {w t u : Text} (hne : w ≠ []) (hw : ∀ c ∈ w, isAsciiLetter c = true) :
    w ++ t ≠ '#' :: u := by
  cases w with
  | nil => exact absurd rfl hne
  | cons c w =>
    intro heq
    have hletter := hw c List.mem_cons_self
    rw [(List.cons.inj heq).1] at hletter
    exact absurd hletter (by decide)

/-- A colour name is not the start of a call. -/
theorem IsColorName.append_ne_call {w name t u : Text} (hw : IsColorName w)
    (ht : notNext isNameChar t = true) (hname : IsFunctionName name) :
    w ++ t ≠ name ++ '(' :: u := by
  intro heq
  have hrun : ∀ {v : Text}, (∀ c ∈ v, isAsciiLetter c = true) → ∀ c ∈ v, isNameChar c = true :=
    fun hv c hc => isNameChar_of_isAsciiLetter (hv c hc)
  obtain ⟨rfl, -⟩ := run_inj (hrun hw.letters) (hrun hname.letters) ht rfl heq
  exact hw.not_isFunctionName hname

theorem IsToken.append_inj {w w' t t' : Text} (h : IsToken w t) (h' : IsToken w' t')
    (heq : w ++ t = w' ++ t') : w = w' ∧ t = t' := by
  have hrun : ∀ {v : Text}, (∀ c ∈ v, isAsciiLetter c = true) → ∀ c ∈ v, isNameChar c = true :=
    fun hv c hc => isNameChar_of_isAsciiLetter (hv c hc)
  rcases h with ⟨hw, ht⟩ | ⟨⟨ds, -, hds, rfl⟩, ht⟩ | ⟨name, args, hname, hargs, rfl⟩
  · rcases h' with ⟨hw', ht'⟩ | ⟨⟨ds', -, -, rfl⟩, -⟩ | ⟨name', args', hname', -, rfl⟩
    · exact run_inj (hrun hw.letters) (hrun hw'.letters) ht ht' heq
    · exact absurd heq (append_ne_hash hw.ne_nil hw.letters)
    · rw [List.append_assoc, List.cons_append] at heq
      exact absurd heq (hw.append_ne_call ht hname')
  · rcases h' with ⟨hw', -⟩ | ⟨⟨ds', -, hds', rfl⟩, ht'⟩ | ⟨name', args', hname', -, rfl⟩
    · exact absurd heq.symm (append_ne_hash hw'.ne_nil hw'.letters)
    · obtain ⟨rfl, rfl⟩ := run_inj (fun c hc => isWordChar_of_isHexDigit (hds c hc))
        (fun c hc => isWordChar_of_isHexDigit (hds' c hc)) ht ht' (List.cons.inj heq).2
      exact ⟨rfl, rfl⟩
    · rw [List.append_assoc] at heq
      exact absurd heq.symm (append_ne_hash hname'.ne_nil hname'.letters)
  · rcases h' with ⟨hw', ht'⟩ | ⟨⟨ds', -, -, rfl⟩, -⟩ | ⟨name', args', hname', hargs', rfl⟩
    · rw [List.append_assoc, List.cons_append] at heq
      exact absurd heq.symm (hw'.append_ne_call ht' hname)
    · rw [List.append_assoc] at heq
      exact absurd heq (append_ne_hash hname.ne_nil hname.letters)
    · simp only [List.append_assoc, List.cons_append, List.nil_append] at heq
      obtain ⟨rfl, hopen⟩ := run_inj (hrun hname.letters) (hrun hname'.letters) rfl rfl heq
      obtain ⟨rfl, rfl⟩ := close_inj hargs hargs' (List.cons.inj hopen).2
      exact ⟨rfl, rfl⟩

/-! ## Declarations -/

/-- A lead and a token are a declaration before a rest that holds a terminator. -/
structure Declares (lead token rest : Text) : Prop where
  lead : IsLead lead
  token : IsToken token rest
  terminated : isTerminated rest = true

/-- A declaration stands at the start of a text. -/
def StartsDeclaration (t : Text) : Prop :=
  ∃ lead token rest, Declares lead token rest ∧ t = lead ++ (token ++ rest)

@[simp] theorem isTerminated_append (t u : Text) :
    isTerminated (t ++ u) = (isTerminated t || isTerminated u) :=
  List.any_append

@[simp] theorem isTerminated_cons (c : Char) (t : Text) :
    isTerminated (c :: t) = ((c == ';' || c == '\x7d') || isTerminated t) :=
  List.any_cons

theorem IsLead.ne_nil {w : Text} (h : IsLead w) : w ≠ [] := by
  obtain ⟨name, before, after, hname, -, -, rfl⟩ := h
  exact List.append_ne_nil_of_left_ne_nil hname.ne_nil _

/-- A lead starts with a name character. -/
theorem IsLead.exists_cons {w : Text} (h : IsLead w) :
    ∃ c more, w = c :: more ∧ isNameChar c = true := by
  obtain ⟨name, before, after, hname, -, -, rfl⟩ := h
  cases name with
  | nil => exact absurd rfl hname.ne_nil
  | cons c name => exact ⟨c, _, rfl, hname.isNameChar c List.mem_cons_self⟩

/-- A declaration starts with a name character. -/
theorem not_startsDeclaration {c : Char} {t : Text} (hc : isNameChar c = false) :
    ¬ StartsDeclaration (c :: t) := by
  rintro ⟨w, token, rest, h, heq⟩
  obtain ⟨d, more, rfl, hd⟩ := h.lead.exists_cons
  obtain ⟨rfl, -⟩ := List.cons.inj heq
  rw [hc] at hd
  cases hd

/-- A token starts with a letter or a hash. -/
theorem IsToken.exists_cons {token rest : Text} (h : IsToken token rest) :
    ∃ c more, token = c :: more ∧ (isAsciiLetter c = true ∨ c = '#') := by
  have hword : ∀ {w : Text}, w ≠ [] → (∀ c ∈ w, isAsciiLetter c = true) →
      ∃ c more, w = c :: more ∧ isAsciiLetter c = true := by
    intro w hne hw
    cases w with
    | nil => exact absurd rfl hne
    | cons c w => exact ⟨c, w, rfl, hw c List.mem_cons_self⟩
  rcases h with ⟨hw, -⟩ | ⟨⟨digits, -, -, rfl⟩, -⟩ | ⟨name, args, hname, -, rfl⟩
  · obtain ⟨c, more, hc, hletter⟩ := hword hw.ne_nil hw.letters
    exact ⟨c, more, hc, Or.inl hletter⟩
  · exact ⟨'#', digits, rfl, Or.inr rfl⟩
  · obtain ⟨c, more, rfl, hletter⟩ := hword hname.ne_nil hname.letters
    exact ⟨c, _, rfl, Or.inl hletter⟩

theorem IsToken.ne_nil {token rest : Text} (h : IsToken token rest) : token ≠ [] := by
  obtain ⟨c, more, rfl, -⟩ := h.exists_cons
  exact List.cons_ne_nil _ _

/-- The blanks of a lead end where its token starts. -/
theorem IsToken.notNext_isCssBlank {token rest : Text} (h : IsToken token rest) (t : Text) :
    notNext isCssBlank (token ++ t) = true := by
  obtain ⟨c, more, rfl, hc⟩ := h.exists_cons
  have hblank : isCssBlank c = false := by
    rcases hc with hc | rfl
    · exact isCssBlank_eq_false_of_isNameChar (isNameChar_of_isAsciiLetter hc)
    · decide
  rw [List.cons_append, notNext_cons, hblank]
  rfl

/-- Whether a token stands before a rest is settled by the first character of the rest. -/
theorem IsToken.congr_rest {token rest rest' : Text} (h : IsToken token rest)
    (hhead : rest.head? = rest'.head?) : IsToken token rest' := by
  rcases h with ⟨hw, ht⟩ | ⟨hw, ht⟩ | hw
  · exact .name hw (notNext_congr hhead ▸ ht)
  · exact .hex hw (notNext_congr hhead ▸ ht)
  · exact .call hw

/-- What is left behind a declaration is shorter. -/
theorem Declares.length_lt {lead token rest : Text} (h : Declares lead token rest) :
    rest.length < (lead ++ (token ++ rest)).length := by
  have hlead := List.length_pos_iff.mpr h.lead.ne_nil
  simp only [List.length_append]
  omega

/-- **One reading only**: a text is cut into a lead, a token and a rest in at most one way. -/
theorem Declares.append_inj {lead token rest lead' token' rest' : Text}
    (h : Declares lead token rest) (h' : Declares lead' token' rest')
    (heq : lead ++ (token ++ rest) = lead' ++ (token' ++ rest')) :
    lead = lead' ∧ token = token' ∧ rest = rest' := by
  obtain ⟨hlead, htail⟩ := h.lead.append_inj h'.lead (h.token.notNext_isCssBlank rest)
    (h'.token.notNext_isCssBlank rest') heq
  exact ⟨hlead, h.token.append_inj h'.token htail⟩

/-! ## Terminators -/

/-- A word of a class without terminators holds none. -/
theorem isTerminated_eq_false_of_class {p : Char → Bool} {w : Text} (hw : ∀ c ∈ w, p c = true)
    (hsemicolon : p ';' = false) (hbrace : p '}' = false) : isTerminated w = false := by
  rw [isTerminated, List.any_eq_false]
  intro c hc hend
  rw [Bool.or_eq_true, beq_iff_eq, beq_iff_eq] at hend
  rcases hend with rfl | rfl
  · exact absurd (hw _ hc) (by rw [hsemicolon]; decide)
  · exact absurd (hw _ hc) (by rw [hbrace]; decide)

theorem isTerminated_letters {w : Text} (hw : ∀ c ∈ w, isAsciiLetter c = true) :
    isTerminated w = false :=
  isTerminated_eq_false_of_class hw rfl rfl

theorem IsLead.isTerminated_eq_false {w : Text} (h : IsLead w) : isTerminated w = false := by
  obtain ⟨name, before, after, hname, hbefore, hafter, rfl⟩ := h
  rw [isTerminated_append, isTerminated_append, isTerminated_cons,
    isTerminated_eq_false_of_class hname.isNameChar rfl rfl,
    isTerminated_eq_false_of_class hbefore rfl rfl,
    isTerminated_eq_false_of_class hafter rfl rfl]
  rfl

/-- A word without terminators at the start of a terminated text and more ends in that text. -/
theorem split_of_isTerminated {a b w t : Text} (hw : isTerminated w = false)
    (ha : isTerminated a = true) (heq : a ++ b = w ++ t) :
    ∃ more, a = w ++ more ∧ t = more ++ b ∧ isTerminated more = true := by
  rcases List.append_eq_append_iff.mp heq with ⟨more, hlonger, -⟩ | ⟨more, rfl, rfl⟩
  · rw [hlonger, isTerminated_append, ha] at hw
    cases hw
  · rw [isTerminated_append, hw, Bool.false_or] at ha
    exact ⟨more, rfl, rfl, ha⟩

/-- A terminated text is not empty, so it starts as it does with more behind it. -/
theorem head?_append_of_isTerminated {t : Text} (h : isTerminated t = true) (more : Text) :
    (t ++ more).head? = t.head? := by
  cases t with
  | nil => cases h
  | cons c t => rfl

/-- A declaration stays one when more text follows. -/
theorem Declares.append {lead token rest : Text} (h : Declares lead token rest) (more : Text) :
    Declares lead token (rest ++ more) where
  lead := h.lead
  token := h.token.congr_rest (head?_append_of_isTerminated h.terminated more).symm
  terminated := by rw [isTerminated_append, h.terminated, Bool.true_or]

end Grammar

end CssColor
