import CssColor.Proofs.Leftmost

/-!
# One way to read a declaration

A search has many choices: two forms of a property name, blanks that could be
parted in several ways, four shapes of a token that overlap, colour names that
begin like others. It tries them in some order and takes the first that leads to
the end of a declaration. That order is of no account, as no text can be read in
two ways from one offset on.

- `Grammar.Rearranges`: the shapes and names in any order, with the calls of
  `rgb` in numbers as a shape of their own or without it.
- `Declaration.readings`: the offsets that a search can come to, over all its
  choices; `mem_readings` says that these are the places of declarations.
- `findWith_congr`: a scan is settled by which tokens its shapes allow.
- `find_unambiguous`: **from each offset on there is at most one reading**, so
  every rearrangement of the shapes and names finds the same declarations.
-/

namespace CssColor

/-! ## Rearranged shapes -/

namespace Grammar

variable {shapes : List Shape} {t rest : Text}

/-- Shapes are the standard ones in some order, with the colour names in some order; the shape of
`rgb` calls in numbers may be left out. -/
def Rearranges (shapes : List Shape) : Prop :=
  ∃ names, names.Perm tokenNames ∧
    (shapes.Perm [.named names, .hexLiteral, .byteRgb, .function] ∨
      shapes.Perm [.named names, .hexLiteral, .function])

/-- Shapes allow the tokens that the standard ones allow. -/
def SameTokens (shapes : List Shape) : Prop :=
  ∀ t rest, rest ∈ token shapes t ↔ rest ∈ token standard t

theorem mem_token_of_shapes : rest ∈ token shapes t ↔ ∃ s ∈ shapes, rest ∈ s.pattern t := by
  rw [token, Pattern.mem_anyOf]
  constructor
  · rintro ⟨_, hpattern, hrest⟩
    obtain ⟨s, hs, rfl⟩ := List.mem_map.mp hpattern
    exact ⟨s, hs, hrest⟩
  · rintro ⟨s, hs, hrest⟩
    exact ⟨_, List.mem_map_of_mem hs, hrest⟩

/-- The order of names is of no account to which texts are one of them. -/
theorem mem_named_of_perm {names names' : List Text} (h : names.Perm names') :
    rest ∈ named names t ↔ rest ∈ named names' t := by
  simp only [named, Pattern.mem_andThen, Pattern.mem_anyOf, List.mem_map, h.mem_iff]

/-- Rearranged shapes allow the same tokens: a call of `rgb` in numbers is a call. -/
theorem Rearranges.sameTokens (h : Rearranges shapes) : SameTokens shapes := by
  intro t rest
  obtain ⟨names, hnames, hshapes⟩ := h
  have hrgb : rest ∈ byteRgb t ∨ rest ∈ function t ↔ rest ∈ function t :=
    or_iff_right_of_imp mem_function_of_mem_byteRgb
  have hstandard : rest ∈ token standard t ↔
      rest ∈ named tokenNames t ∨ rest ∈ hexLiteral t ∨ rest ∈ function t := by
    simp only [mem_token_of_shapes, standard, List.mem_cons, List.not_mem_nil, or_false,
      exists_eq_or_imp, exists_eq_left, Shape.pattern, hrgb]
  rw [hstandard, ← mem_named_of_perm hnames]
  rcases hshapes with hshapes | hshapes
  · simp only [mem_token_of_shapes, hshapes.mem_iff, List.mem_cons, List.not_mem_nil, or_false,
      exists_eq_or_imp, exists_eq_left, Shape.pattern, hrgb]
  · simp only [mem_token_of_shapes, hshapes.mem_iff, List.mem_cons, List.not_mem_nil, or_false,
      exists_eq_or_imp, exists_eq_left, Shape.pattern]

end Grammar

namespace Declaration

open Grammar

variable {shapes : List Shape} {t : Text}

/-! ## Readings -/

/-- The ways in which a search can read a declaration from an offset on, over all its choices: the
offset where the token starts, and the one where it stops. -/
def readings (shapes : List Shape) (t : Text) (start : Nat) : List (Nat × Nat) :=
  (choices shapes (t.drop start)).map fun (fromToken, rest) =>
    (t.length - fromToken.length, t.length - rest.length)

/-- All choices of a search come to the same token and the same rest. -/
theorem choices_unique {choice choice' : Text × Text} (h : choice ∈ choices standard t)
    (h' : choice' ∈ choices standard t) : choice = choice' := by
  obtain ⟨lead, token, hdecl, hfrom, rfl⟩ := mem_choices.mp h
  obtain ⟨lead', token', hdecl', hfrom', heq⟩ := mem_choices.mp h'
  obtain ⟨-, htoken, hrest⟩ := hdecl.append_inj hdecl' heq
  exact Prod.ext (by rw [hfrom, hfrom', htoken, hrest]) hrest

/-- A text that goes on with a declaration holds it, and the lengths of what is left tell the
offsets. -/
theorem standsIn_of_drop {lead token rest : Text} {start : Nat} (h : Declares lead token rest)
    (hdrop : t.drop start = lead ++ (token ++ rest)) :
    StandsIn ⟨start, lead, token⟩ t ∧ t.length - (token ++ rest).length = start + lead.length ∧
      t.length - rest.length = start + lead.length + token.length := by
  have hlengths := congrArg List.length hdrop
  have hlead := List.length_pos_iff.mpr h.lead.ne_nil
  simp only [List.length_drop, List.length_append] at hlengths ⊢
  refine ⟨⟨t.take start, rest, h, ?_, ?_⟩, by omega, by omega⟩
  · rw [List.length_take]
    exact Nat.min_eq_left (by omega)
  · exact (List.take_append_drop start t).symm.trans (congrArg _ hdrop)

/-- **The readings are the places of declarations**: a search comes to all that the grammar allows,
and to nothing else. -/
theorem mem_readings {start tokenStart stop : Nat} :
    (tokenStart, stop) ∈ readings standard t start ↔ Occupies t start tokenStart stop := by
  constructor
  · intro h
    obtain ⟨⟨fromToken, rest⟩, hchoice, heq⟩ := List.mem_map.mp h
    obtain ⟨lead, token, hdecl, rfl, hdrop⟩ := mem_choices.mp hchoice
    obtain ⟨hstands, htokenStart, hstop⟩ := standsIn_of_drop hdecl hdrop
    obtain ⟨rfl, rfl⟩ := Prod.mk.inj heq
    rw [htokenStart, hstop]
    exact hstands.occupies.1
  · intro h
    obtain ⟨⟨start, lead, token⟩, ⟨before, rest, hdecl, hlen, heq⟩, rfl, rfl, rfl⟩ :=
      h.exists_standsIn
    have hdrop : t.drop start = lead ++ (token ++ rest) := by
      rw [heq, ← show before.length = start from hlen]
      exact List.drop_left
    obtain ⟨-, htokenStart, hstop⟩ := standsIn_of_drop hdecl hdrop
    refine List.mem_map.mpr ⟨(token ++ rest, rest), ?_, Prod.ext htokenStart hstop⟩
    rw [hdrop]
    exact mem_choices.mpr ⟨lead, token, hdecl, rfl, rfl⟩

/-! ## Scans with the same tokens -/

/-- What is found at the start of a text is settled by which choices there are, as all of them are
one. -/
theorem atStart?_congr (h : SameTokens shapes) (offset : Nat) (t : Text) :
    atStart? shapes offset t = atStart? standard offset t := by
  have hmem : ∀ choice, choice ∈ choices shapes t ↔ choice ∈ choices standard t := by
    intro choice
    simp only [choices, List.mem_flatMap, List.mem_map, List.mem_filter, h _ _]
  rw [atStart?, atStart?]
  cases hchoices : choices shapes t with
  | nil =>
    cases hstandard : choices standard t with
    | nil => rfl
    | cons choice more =>
      have hin := (hmem choice).mpr (hstandard ▸ List.mem_cons_self)
      rw [hchoices] at hin
      cases hin
  | cons choice more =>
    have hfirst := (hmem choice).mp (hchoices ▸ List.mem_cons_self)
    cases hstandard : choices standard t with
    | nil =>
      rw [hstandard] at hfirst
      cases hfirst
    | cons choice' more' => rw [choices_unique hfirst (hstandard ▸ List.mem_cons_self)]

theorem findFrom_congr (h : SameTokens shapes) (t : Text) (offset covered : Nat) :
    findFrom shapes offset covered t = findFrom standard offset covered t := by
  induction t generalizing offset covered with
  | nil => cases covered <;> rfl
  | cons c t ih =>
    cases covered with
    | succ covered => rw [findFrom, findFrom, ih]
    | zero =>
      rw [findFrom, findFrom, atStart?_congr h]
      cases atStart? standard offset (c :: t) with
      | none => exact ih _ _
      | some d => exact congrArg (d :: ·) (ih _ _)

/-- **A scan is settled by which tokens its shapes allow**, not by the order in which they are
tried. -/
theorem findWith_congr (h : SameTokens shapes) (t : Text) : findWith shapes t = find t :=
  findFrom_congr h t 0 0

/-- **From each offset on there is at most one reading**, whatever a search tries: where the grammar
allows a declaration, and nowhere else. So the shapes and the names can be tried in any order, and
`rgb` calls in numbers need no shape of their own: the same declarations are found in every text. -/
theorem find_unambiguous :
    (∀ t start tokenStart stop, (tokenStart, stop) ∈ readings standard t start ↔
      Occupies t start tokenStart stop) ∧
    (∀ t start, ∀ reading ∈ readings standard t start, ∀ reading' ∈ readings standard t start,
      reading = reading') ∧
    ∀ shapes, Rearranges shapes → ∀ t, findWith shapes t = find t := by
  refine ⟨fun t start tokenStart stop => mem_readings, fun t start reading h reading' h' => ?_,
    fun shapes hshapes => findWith_congr hshapes.sameTokens⟩
  obtain ⟨choice, hchoice, rfl⟩ := List.mem_map.mp h
  obtain ⟨choice', hchoice', rfl⟩ := List.mem_map.mp h'
  rw [choices_unique hchoice hchoice']

/-- The standard shapes and names the other way round, without the shape of `rgb` calls in
numbers. -/
def turnedRound : List Shape :=
  [.function, .hexLiteral, .named tokenNames.reverse]

/-- A call that two of the standard shapes allow is read in one way, and found without one of
them. -/
theorem find_unambiguous_numbers :
    Rearranges turnedRound ∧ (2, 12) ∈ readings standard "a:rgb(1,2,3);".toList 0 ∧
      (∀ reading ∈ readings standard "a:rgb(1,2,3);".toList 0, reading = (2, 12)) ∧
      findWith turnedRound "a:rgb(1,2,3);".toList = [⟨0, "a:".toList, "rgb(1,2,3)".toList⟩] := by
  have hturned : Rearranges turnedRound :=
    ⟨_, List.reverse_perm _,
      Or.inr (List.reverse_perm [Shape.named tokenNames.reverse, .hexLiteral, .function])⟩
  have hname : ∀ c ∈ "a".toList, isPropertyChar c = true := List.all_eq_true.mp (by decide)
  have hlead : IsLead "a:".toList :=
    ⟨"a".toList, [], [], Or.inr ⟨by decide, hname⟩, List.forall_mem_nil _, List.forall_mem_nil _,
      rfl⟩
  have hcall : IsCall "rgb(1,2,3)".toList :=
    ⟨"rgb".toList, "1,2,3".toList, by decide, by decide, rfl⟩
  obtain ⟨hplaces, hunique, hsame⟩ := find_unambiguous
  have hread : (2, 12) ∈ readings standard "a:rgb(1,2,3);".toList 0 :=
    (hplaces _ 0 2 12).mpr
      ⟨by decide, by decide, by decide, hlead, .call hcall, 12, by decide, Or.inl rfl⟩
  refine ⟨hturned, hread, fun reading h => hunique _ 0 reading h _ hread, ?_⟩
  have hdecl : Declares "a:".toList "rgb(1,2,3)".toList ";".toList := ⟨hlead, .call hcall, rfl⟩
  have hrest : find ";".toList = [] := find_cons (not_startsDeclaration rfl)
  have hfind := find_declaration hdecl
  rw [hrest] at hfind
  exact (hsame _ hturned _).trans hfind

end Declaration

end CssColor
