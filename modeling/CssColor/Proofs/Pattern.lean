import CssColor.Declaration.Pattern

/-!
# What patterns match

A pattern gives the texts that a match at the start of a text may leave. Which
ones these are is said here without the search that lists them:

- `Pattern.mem_many`, `Pattern.mem_some`, `Pattern.mem_times`,
  `Pattern.mem_word`: a run of a class, or a given word, is taken off the start;
- `Pattern.mem_andThen`, `Pattern.mem_orElse`, `Pattern.mem_anyOf`,
  `Pattern.mem_maybe`: a sequence passes through a text between, an alternative
  takes either way;
- `Pattern.mem_ahead`: a condition on what follows takes nothing;
- `Pattern.Avoids`, `Pattern.Closes`: no match takes a given character, or
  every match takes it once and last.

The order in which a pattern prefers its matches is not part of these
statements: no declaration can be read in two ways, so it never matters.
-/

namespace CssColor

namespace Pattern

variable {p : Char → Bool} {P Q : Pattern} {t rest : Text}

@[simp] theorem mem_char : rest ∈ char p t ↔ ∃ c, p c = true ∧ t = c :: rest := by
  cases t with
  | nil => simp [char]
  | cons c t =>
    rw [char]
    by_cases hc : p c = true
    · rw [if_pos hc, List.mem_singleton]
      constructor
      · rintro rfl
        exact ⟨c, hc, rfl⟩
      · rintro ⟨d, -, heq⟩
        exact (List.cons.inj heq).2.symm
    · rw [if_neg hc]
      constructor
      · intro h
        cases h
      · rintro ⟨d, hd, heq⟩
        rw [(List.cons.inj heq).1] at hc
        exact absurd hd hc

/-- The rests of longer runs are put before those found so far. -/
theorem mem_runs {after : List Text} :
    rest ∈ runs p after t ↔ rest ∈ after ∨ ∃ w, (∀ c ∈ w, p c = true) ∧ t = w ++ rest := by
  induction t generalizing after with
  | nil =>
    rw [runs, List.mem_cons]
    constructor
    · rintro (rfl | h)
      · exact Or.inr ⟨[], by simp, rfl⟩
      · exact Or.inl h
    · rintro (h | ⟨w, -, heq⟩)
      · exact Or.inr h
      · exact Or.inl (List.append_eq_nil_iff.mp heq.symm).2
  | cons c t ih =>
    have stop : (∃ w, (∀ d ∈ w, p d = true) ∧ c :: t = w ++ rest) ↔
        rest = c :: t ∨ p c = true ∧ ∃ w, (∀ d ∈ w, p d = true) ∧ t = w ++ rest := by
      constructor
      · rintro ⟨w, hw, heq⟩
        cases w with
        | nil => exact Or.inl heq.symm
        | cons d w =>
          obtain ⟨rfl, rfl⟩ := List.cons.inj heq
          exact Or.inr ⟨hw c List.mem_cons_self, w, fun d hd => hw d (List.mem_cons_of_mem _ hd), rfl⟩
      · rintro (rfl | ⟨hc, w, hw, rfl⟩)
        · exact ⟨[], by simp, rfl⟩
        · refine ⟨c :: w, ?_, rfl⟩
          rintro d (_ | ⟨_, hd⟩)
          · exact hc
          · exact hw d hd
    rw [stop, runs]
    by_cases hc : p c = true
    · rw [if_pos hc, ih, List.mem_cons, or_assoc, or_left_comm]
      simp only [hc, true_and]
    · rw [if_neg hc, List.mem_cons, or_comm]
      simp only [hc, Bool.false_eq_true, false_and, or_false]

@[simp] theorem mem_many :
    rest ∈ many p t ↔ ∃ w, (∀ c ∈ w, p c = true) ∧ t = w ++ rest := by
  rw [many, mem_runs]
  simp only [List.not_mem_nil, false_or]

@[simp] theorem mem_andThen : rest ∈ P.andThen Q t ↔ ∃ middle ∈ P t, rest ∈ Q middle :=
  List.mem_flatMap

@[simp] theorem mem_orElse : rest ∈ P.orElse Q t ↔ rest ∈ P t ∨ rest ∈ Q t :=
  List.mem_append

@[simp] theorem mem_some :
    rest ∈ Pattern.some p t ↔ ∃ w, w ≠ [] ∧ (∀ c ∈ w, p c = true) ∧ t = w ++ rest := by
  rw [Pattern.some, mem_andThen]
  constructor
  · rintro ⟨middle, hfirst, hmany⟩
    obtain ⟨c, hc, rfl⟩ := mem_char.mp hfirst
    obtain ⟨w, hw, rfl⟩ := mem_many.mp hmany
    exact ⟨c :: w, by simp, List.forall_mem_cons.mpr ⟨hc, hw⟩, rfl⟩
  · rintro ⟨w, hne, hw, rfl⟩
    cases w with
    | nil => exact absurd rfl hne
    | cons c w =>
      obtain ⟨hc, hw⟩ := List.forall_mem_cons.mp hw
      exact ⟨w ++ rest, mem_char.mpr ⟨c, hc, rfl⟩, mem_many.mpr ⟨w, hw, rfl⟩⟩

@[simp] theorem mem_times {n : Nat} :
    rest ∈ times p n t ↔ ∃ w, w.length = n ∧ (∀ c ∈ w, p c = true) ∧ t = w ++ rest := by
  induction n generalizing t with
  | zero =>
    rw [times, List.mem_singleton]
    constructor
    · rintro rfl
      exact ⟨[], rfl, by simp, rfl⟩
    · rintro ⟨w, hlen, -, rfl⟩
      rw [List.length_eq_zero_iff.mp hlen, List.nil_append]
  | succ n ih =>
    rw [times, mem_andThen]
    constructor
    · rintro ⟨middle, hfirst, hmore⟩
      obtain ⟨c, hc, rfl⟩ := mem_char.mp hfirst
      obtain ⟨w, hlen, hw, rfl⟩ := ih.mp hmore
      exact ⟨c :: w, by rw [List.length_cons, hlen], List.forall_mem_cons.mpr ⟨hc, hw⟩, rfl⟩
    · rintro ⟨w, hlen, hw, rfl⟩
      cases w with
      | nil => cases hlen
      | cons c w =>
        obtain ⟨hc, hw⟩ := List.forall_mem_cons.mp hw
        exact ⟨w ++ rest, mem_char.mpr ⟨c, hc, rfl⟩,
          ih.mpr ⟨w, Nat.succ.inj hlen, hw, rfl⟩⟩

@[simp] theorem mem_word {word : Text} :
    rest ∈ Pattern.word word t ↔ ∃ w, w.map Char.toLower = word ∧ t = w ++ rest := by
  induction word generalizing t with
  | nil =>
    rw [Pattern.word, List.mem_singleton]
    constructor
    · rintro rfl
      exact ⟨[], rfl, rfl⟩
    · rintro ⟨w, hw, rfl⟩
      rw [List.map_eq_nil_iff.mp hw, List.nil_append]
  | cons c word ih =>
    rw [Pattern.word, mem_andThen]
    constructor
    · rintro ⟨middle, hfirst, hmore⟩
      obtain ⟨d, hd, rfl⟩ := mem_char.mp hfirst
      obtain ⟨w, hw, rfl⟩ := ih.mp hmore
      exact ⟨d :: w, by rw [List.map_cons, hw, eq_of_beq hd], rfl⟩
    · rintro ⟨w, hw, rfl⟩
      cases w with
      | nil => cases hw
      | cons d w =>
        obtain ⟨hd, hw⟩ := List.cons.inj hw
        exact ⟨w ++ rest, mem_char.mpr ⟨d, beq_iff_eq.mpr hd, rfl⟩, ih.mpr ⟨w, hw, rfl⟩⟩

@[simp] theorem mem_ahead {condition : Text → Bool} :
    rest ∈ ahead condition t ↔ condition t = true ∧ rest = t := by
  rw [ahead]
  by_cases h : condition t = true
  · rw [if_pos h, List.mem_singleton]
    exact (and_iff_right h).symm
  · rw [if_neg h]
    exact ⟨fun hmem => absurd hmem List.not_mem_nil, fun hboth => absurd hboth.1 h⟩

@[simp] theorem mem_anyOf {ps : List Pattern} : rest ∈ anyOf ps t ↔ ∃ q ∈ ps, rest ∈ q t := by
  induction ps with
  | nil => simp [anyOf]
  | cons q ps ih => simp only [anyOf, mem_orElse, ih, List.mem_cons, exists_eq_or_imp]

@[simp] theorem mem_maybe : rest ∈ P.maybe t ↔ rest ∈ P t ∨ rest = t := by
  rw [maybe, mem_orElse, List.mem_singleton]

/-! ## Characters that a pattern never takes -/

/-- No match takes a character off the start. -/
def Avoids (P : Pattern) (c : Char) : Prop :=
  ∀ ⦃t rest : Text⦄, rest ∈ P t → ∃ w, c ∉ w ∧ t = w ++ rest

variable {c : Char}

theorem avoids_char (h : p c = false) : (char p).Avoids c := by
  intro t rest hrest
  obtain ⟨d, hd, rfl⟩ := mem_char.mp hrest
  refine ⟨[d], ?_, rfl⟩
  rw [List.mem_singleton]
  rintro rfl
  rw [h] at hd
  cases hd

theorem avoids_many (h : p c = false) : (many p).Avoids c := by
  intro t rest hrest
  obtain ⟨w, hw, rfl⟩ := mem_many.mp hrest
  refine ⟨w, fun hc => ?_, rfl⟩
  have hin := hw c hc
  rw [h] at hin
  cases hin

theorem Avoids.andThen (hP : P.Avoids c) (hQ : Q.Avoids c) : (P.andThen Q).Avoids c := by
  intro t rest hrest
  obtain ⟨middle, hfirst, hsecond⟩ := mem_andThen.mp hrest
  obtain ⟨v, hv, rfl⟩ := hP hfirst
  obtain ⟨w, hw, rfl⟩ := hQ hsecond
  exact ⟨v ++ w, by simp [hv, hw], by simp⟩

theorem Avoids.orElse (hP : P.Avoids c) (hQ : Q.Avoids c) : (P.orElse Q).Avoids c := by
  intro t rest hrest
  rcases mem_orElse.mp hrest with h | h
  · exact hP h
  · exact hQ h

theorem Avoids.maybe (hP : P.Avoids c) : P.maybe.Avoids c :=
  hP.orElse fun _ _ hrest => ⟨[], List.not_mem_nil, (List.mem_singleton.mp hrest).symm⟩

theorem avoids_some (h : p c = false) : (Pattern.some p).Avoids c :=
  (avoids_char h).andThen (avoids_many h)

theorem avoids_times (h : p c = false) : ∀ n, (times p n).Avoids c
  | 0 => fun _ _ hrest => ⟨[], List.not_mem_nil, (List.mem_singleton.mp hrest).symm⟩
  | n + 1 => (avoids_char h).andThen (avoids_times h n)

theorem avoids_anyOf {ps : List Pattern} (h : ∀ q ∈ ps, q.Avoids c) : (anyOf ps).Avoids c := by
  intro t rest hrest
  obtain ⟨q, hq, hrest⟩ := mem_anyOf.mp hrest
  exact h q hq hrest

/-- Every match takes a text that ends with a character and holds it nowhere else. -/
def Closes (P : Pattern) (c : Char) : Prop :=
  ∀ ⦃t rest : Text⦄, rest ∈ P t → ∃ w, c ∉ w ∧ t = w ++ c :: rest

theorem closes_char : (char (· == c)).Closes c := by
  intro t rest hrest
  obtain ⟨d, hd, rfl⟩ := mem_char.mp hrest
  exact ⟨[], List.not_mem_nil, by rw [eq_of_beq hd, List.nil_append]⟩

theorem Avoids.andThen_closes (hP : P.Avoids c) (hQ : Q.Closes c) : (P.andThen Q).Closes c := by
  intro t rest hrest
  obtain ⟨middle, hfirst, hsecond⟩ := mem_andThen.mp hrest
  obtain ⟨v, hv, rfl⟩ := hP hfirst
  obtain ⟨w, hw, rfl⟩ := hQ hsecond
  exact ⟨v ++ w, by simp [hv, hw], by simp⟩

end Pattern

end CssColor
