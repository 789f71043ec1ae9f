import CssColor.Color.Reading
import CssColor.Proofs.Vocabulary

/-!
# Parentheses in colour tokens

A value holds no parenthesis, so an opening parenthesis stops every reader of
values: what it leaves still holds it. Only the one behind the name of a function
is read, and the readers of names and of hex literals read none.

- `open_mem_of_number?`, `open_mem_of_quantity?`, …: what a reader leaves.
- `mem_colorWords_iff`: **the words of the grammar are the names that are read.**
- `read?_eq_none_of_count`: **no colour has two opening parentheses**.
-/

namespace CssColor

/-! ## What is dropped -/

section Dropped

variable {α : Type} [BEq α] [LawfulBEq α] {p : α → Bool} {a : α}

/-- What does not belong to a class is not dropped with it. -/
theorem count_dropWhile (ha : p a = false) (items : List α) :
    (items.dropWhile p).count a = items.count a := by
  induction items with
  | nil => rfl
  | cons b items ih =>
    rw [List.dropWhile_cons]
    split
    · rename_i hb
      have hne : b ≠ a := by
        rintro rfl
        rw [ha] at hb
        cases hb
      rw [ih, List.count_cons_of_ne hne]
    · rfl

theorem mem_dropWhile {items : List α} (h : a ∈ items) (ha : p a = false) :
    a ∈ items.dropWhile p := by
  rw [← List.count_pos_iff] at h ⊢
  rwa [count_dropWhile ha]

end Dropped

/-! ## Readers of values -/

namespace Call

variable {t rest : Text}

theorem open_mem_of_spanDigits {digits : Text} (h : '(' ∈ t)
    (hread : spanDigits t = (digits, rest)) : '(' ∈ rest := by
  cases hread
  exact mem_dropWhile h (by decide)

theorem open_mem_of_mantissa? {whole fraction : Text} (h : '(' ∈ t)
    (hread : mantissa? t = some (whole, fraction, rest)) : '(' ∈ rest := by
  have hbehind : '(' ∈ (spanDigits t).2 := open_mem_of_spanDigits h rfl
  have hplain : (if (spanDigits t).1.isEmpty then none
      else some ((spanDigits t).1, [], (spanDigits t).2)) = some (whole, fraction, rest) →
        '(' ∈ rest := by
    intro hplain
    split at hplain
    · cases hplain
    · cases hplain
      exact hbehind
  rw [mantissa?] at hread
  dsimp only at hread
  split at hread
  · rename_i more hpoint
    rw [hpoint] at hbehind
    -- without digits behind it the point is not part of the number
    by_cases hfraction : (spanDigits more).1.isEmpty = true
    · rw [if_pos hfraction] at hread
      exact hplain hread
    · rw [if_neg hfraction] at hread
      cases hread
      exact open_mem_of_spanDigits (List.mem_of_ne_of_mem (by decide) hbehind) rfl
  · exact hplain hread

theorem open_mem_of_sign {negative : Bool} {body : Text}
    (hsign : (match t with
      | '-' :: body => (true, body)
      | '+' :: body => (false, body)
      | body => (false, body)) = (negative, body)) (h : '(' ∈ t) : '(' ∈ body := by
  split at hsign
  · cases hsign
    exact List.mem_of_ne_of_mem (by decide) h
  · cases hsign
    exact List.mem_of_ne_of_mem (by decide) h
  · cases hsign
    exact h

theorem open_mem_of_power (h : '(' ∈ t) : '(' ∈ (power t).2 := by
  fun_cases power t with
  | case1 => exact h
  | case2 more negative body hsign digits left hdigits =>
    have hmore := List.mem_of_ne_of_mem (by decide) h
    exact open_mem_of_spanDigits (open_mem_of_sign hsign hmore) hdigits
  | case3 => exact h

theorem open_mem_of_number? {x : Float} (h : '(' ∈ t) (hread : number? t = some (x, rest)) :
    '(' ∈ rest := by
  revert hread
  fun_cases number? t with
  | case1 negative body hsign =>
    intro hread
    obtain ⟨⟨whole, fraction, left⟩, hmantissa, hnumber⟩ := Option.map_eq_some_iff.mp hread
    cases hnumber
    exact open_mem_of_power (open_mem_of_mantissa? (open_mem_of_sign hsign h) hmantissa)

theorem open_mem_of_quantity? {q : Quantity} (h : '(' ∈ t)
    (hread : quantity? t = some (q, rest)) : '(' ∈ rest := by
  revert hread
  fun_cases quantity? t with
  | case1 more =>
    intro hread
    cases hread
    simpa using h
  | case2 =>
    intro hread
    obtain ⟨⟨x, left⟩, hnumber, hunit⟩ := Option.map_eq_some_iff.mp hread
    have hleft := open_mem_of_number? h hnumber
    -- the characters of a unit are no parentheses
    dsimp only at hunit
    split at hunit
    all_goals
      cases hunit
      simpa using hleft

theorem open_mem_of_mark? {mark : Char} (hmark : mark ≠ '(') (h : '(' ∈ t)
    (hread : mark? mark t = some rest) : '(' ∈ rest := by
  have htrim : '(' ∈ t.trimStart := mem_dropWhile h (by decide)
  rw [mark?] at hread
  split at hread
  · rename_i c more hmore
    rw [hmore] at htrim
    split at hread
    · rename_i hc
      cases hread
      refine mem_dropWhile ?_ (by decide)
      exact (List.mem_cons.mp htrim).resolve_left fun hopen => hmark (hc ▸ hopen.symm)
    · cases hread
  · cases hread

theorem open_mem_of_commaValues (most : Nat) (h : '(' ∈ t) : '(' ∈ (commaValues most t).rest := by
  induction most generalizing t with
  | zero => exact h
  | succ most ih =>
    rw [commaValues]
    split
    · exact h
    · rename_i q rest hq
      have hrest := open_mem_of_quantity? h hq
      split
      · rename_i more hmore
        exact ih (open_mem_of_mark? (by decide) hrest hmore)
      · exact hrest

theorem open_mem_of_blankValues (most : Nat) (h : '(' ∈ t) : '(' ∈ (blankValues most t).rest := by
  induction most generalizing t with
  | zero => exact h
  | succ most ih =>
    rw [blankValues]
    split
    · exact h
    · rename_i q rest hq
      have hrest := open_mem_of_quantity? h hq
      split
      · rename_i more hmore
        split
        · rename_i alpha left halpha
          exact open_mem_of_quantity? (open_mem_of_mark? (by decide) hrest hmore) halpha
        · exact hrest
      · exact ih (mem_dropWhile hrest (by decide))

theorem close?_eq_none {name : Text} {space : Option Text} {commas : Bool} {vs : Values}
    (h : '(' ∈ vs.rest) : close? name space commas vs = none := by
  have htrim : '(' ∈ vs.rest.trimStart := mem_dropWhile h (by decide)
  rw [close?, if_neg]
  intro hclose
  rw [hclose] at htrim
  exact absurd htrim (by decide)

theorem open_mem_of_identifier? {space : Text} (h : '(' ∈ t)
    (hread : identifier? t = some (space, rest)) : '(' ∈ rest := by
  revert hread
  fun_cases identifier? t with
  | case1 =>
    intro hread
    cases hread
    exact mem_dropWhile h (by decide)
  | case2 => exact nofun
  | case3 => exact nofun

/-- Behind the parenthesis that opens a call the text holds each further one. -/
theorem open_mem_of_call {p : Char → Bool} (hp : p '(' = false) (h : 2 ≤ t.count '(')
    (hcall : t.dropWhile p = '(' :: rest) : '(' ∈ rest.trimStart := by
  have hcount := count_dropWhile hp t
  rw [hcall, List.count_cons_self] at hcount
  have hmem : '(' ∈ rest := List.count_pos_iff.mp (by omega)
  exact mem_dropWhile hmem (by decide)

/-- A call with a second opening parenthesis is not read. -/
theorem read?_eq_none (h : 2 ≤ t.count '(') : read? t = none := by
  fun_cases read? t with
  | case1 name rest hcall body _ space more hspace _ =>
    have hmore := open_mem_of_identifier? (open_mem_of_call (by decide) h hcall) hspace
    exact close?_eq_none (open_mem_of_blankValues mostValues (mem_dropWhile hmore (by decide)))
  | case4 name rest hcall =>
    have hbody := open_mem_of_call (by decide) h hcall
    exact close?_eq_none (open_mem_of_commaValues mostValues hbody)
  | case5 name rest hcall =>
    have hbody := open_mem_of_call (by decide) h hcall
    exact close?_eq_none (open_mem_of_blankValues mostValues hbody)
  | case2 => rfl
  | case3 => rfl
  | case6 => rfl
  | case7 => rfl
  | case8 => rfl

end Call

/-! ## Readers of words -/

theorem hexValues?_eq_none {digits : Text} (h : '(' ∈ digits) : hexValues? digits = none := by
  induction digits with
  | nil => cases h
  | cons c digits ih =>
    rw [hexValues?]
    rcases List.mem_cons.mp h with rfl | h
    · rfl
    · rw [ih h]
      cases hexValue? c <;> rfl

/-- The words of the grammar are the names of the readers, and the one for no colour at all. -/
theorem colorWords_perm :
    Grammar.colorWords.Perm (namedColors.map Prod.fst ++ ["transparent".toList]) := by
  have hnames : Grammar.wordNames.Perm (colorNames.map Prod.fst ++ ["transparent"]) := by
    decide +kernel
  have hwords := hnames.map String.toList
  rw [List.map_append, List.map_map] at hwords
  rw [Grammar.colorWords, namedColors, List.map_map]
  exact hwords

/-- **The words of the grammar are the names that are read**: each has a colour, and no other word
has one. -/
theorem mem_colorWords_iff {name : Text} :
    name ∈ Grammar.colorWords ↔ ∃ color, nameColor? name = some color := by
  rw [colorWords_perm.mem_iff, List.mem_append, List.mem_singleton, nameColor?]
  by_cases hname : name = "transparent".toList
  · rw [if_pos hname]
    exact iff_of_true (Or.inr hname) ⟨_, rfl⟩
  · rw [if_neg hname, or_iff_left hname]
    constructor
    · intro hmem
      obtain ⟨⟨name, bytes⟩, hentry, rfl⟩ := List.mem_map.mp hmem
      cases hfound : namedColor? name with
      | none =>
        have hother : (name != name) = true := List.lookup_eq_none_iff.mp hfound _ hentry
        rw [bne_self_eq_false] at hother
        cases hother
      | some bytes => exact ⟨_, rfl⟩
    · rintro ⟨color, hcolor⟩
      obtain ⟨bytes, hbytes, -⟩ := Option.map_eq_some_iff.mp hcolor
      obtain ⟨before, after, hsplit, -⟩ := List.lookup_eq_some_iff.mp hbytes
      refine List.mem_map.mpr ⟨(name, bytes), ?_, rfl⟩
      rw [hsplit]
      exact List.mem_append_right before List.mem_cons_self

theorem space_of_nameColor? {name : Text} {color : Color} (h : nameColor? name = some color) :
    color.space = .srgb := by
  rw [nameColor?] at h
  split at h
  · cases h
    rfl
  · obtain ⟨bytes, -, rfl⟩ := Option.map_eq_some_iff.mp h
    rfl

theorem nameColor?_eq_none {name : Text} (h : '(' ∈ name) : nameColor? name = none := by
  rw [Option.eq_none_iff_forall_ne_some]
  intro color hcolor
  have hletters := (Grammar.colorWords_spelling name (mem_colorWords_iff.mpr ⟨color, hcolor⟩)).1.2
  exact absurd (hletters _ h) (by decide)

/-! ## Tokens -/

theorem count_trim (t : Text) : t.trim.count '(' = t.count '(' := by
  rw [Text.trim, Text.trimEnd, List.count_reverse, count_dropWhile (by decide),
    List.count_reverse, Text.trimStart, count_dropWhile (by decide)]

theorem lowercaseChar_eq_open_iff {c : Char} : lowercaseChar c = '(' ↔ c = '(' := by
  constructor
  · intro h
    rw [lowercaseChar] at h
    split at h
    · cases h
    · rw [← h, toLower_eq_self (by rw [h]; decide)]
  · rintro rfl
    decide

theorem count_lowercase (t : Text) : t.lowercase.count '(' = t.count '(' := by
  rw [Text.lowercase, List.count_eq_countP, List.countP_map, List.count_eq_countP]
  refine List.countP_congr fun c _ => ?_
  rw [Function.comp_apply, beq_iff_eq, beq_iff_eq]
  exact lowercaseChar_eq_open_iff

/-- **No colour has two opening parentheses**: a token that holds a second one is refused. -/
theorem read?_eq_none_of_count {token : Text} (h : 2 ≤ token.count '(') :
    Color.read? token = none := by
  -- blanks and letter case hide no parenthesis
  rw [← count_trim, ← count_lowercase] at h
  have hmem : '(' ∈ token.trim.lowercase := List.count_pos_iff.mp (by omega)
  unfold Color.read? Color.parse?
  split
  · rename_i digits hdigits
    rw [hdigits] at hmem
    rw [hexColor?, hexValues?_eq_none (List.mem_of_ne_of_mem (by decide) hmem)]
  · rw [nameColor?_eq_none hmem, Call.read?_eq_none h]
    rfl

end CssColor
