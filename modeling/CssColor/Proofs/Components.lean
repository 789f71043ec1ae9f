import CssColor.Proofs.Notation

/-!
# The numbers of a notation

A rendered call is read as what stands between its blanks.

- `components`: the numbers in the text of a call.
- `components_functionText`: they are the numerals that the call was put together
  from.
- `LightnessOverflows`: a finite lightness that is no finite percentage.
- `render_components`: **every number in a rendered colour is a finite decimal
  numeral, but for a lightness that overflows**; that one is an infinity.
-/

namespace CssColor

/-! ## Words of a text -/

/-- What stands between the blanks of a text. -/
def betweenBlanks : Text → List Text
  | [] => [[]]
  | c :: t =>
    if c = ' ' then [] :: betweenBlanks t
    else
      match betweenBlanks t with
      | [] => [[c]]
      | word :: rest => (c :: word) :: rest

/-- A number without its percent sign. -/
def withoutPercent (t : Text) : Text :=
  if t.getLast? = some '%' then t.dropLast else t

/-- The numbers between the parentheses of a call, without slashes and percent signs. -/
def components (t : Text) : List Text :=
  let inside := ((t.dropWhile (· != '(')).drop 1).takeWhile (· != ')')
  ((betweenBlanks inside).filter fun w => w ≠ [] ∧ w ≠ ['/']).map withoutPercent

theorem betweenBlanks_word {w : Text} (h : ' ' ∉ w) : betweenBlanks w = [w] := by
  induction w with
  | nil => rfl
  | cons c w ih =>
    rw [List.mem_cons, not_or] at h
    rw [betweenBlanks, if_neg (Ne.symm h.1), ih h.2]

theorem betweenBlanks_append {w : Text} (h : ' ' ∉ w) (t : Text) :
    betweenBlanks (w ++ ' ' :: t) = w :: betweenBlanks t := by
  induction w with
  | nil => rfl
  | cons c w ih =>
    rw [List.mem_cons, not_or] at h
    rw [List.cons_append, betweenBlanks, if_neg (Ne.symm h.1), ih h.2]

/-- A text can stand as a number in a call. -/
structure IsWritable (t : Text) : Prop where
  numeral : IsNumeral t
  ne_nil : t ≠ []

theorem IsDecimal.isWritable {t : Text} (h : IsDecimal t) : IsWritable t :=
  ⟨h.isNumeral, h.ne_nil⟩

theorem withoutPercent_of_isPart {n t : Text} (h : IsWritable n) (ht : IsPart n t) :
    withoutPercent t = n := by
  rcases ht with rfl | rfl
  · rw [withoutPercent, if_neg]
    intro hlast
    exact absurd (h.numeral _ (List.mem_of_getLast? hlast)) (by decide)
  · simp [withoutPercent]

/-- A part of a call is a word between blanks: it holds no sign that a call is made up with. -/
theorem part_notMem {n t : Text} (h : IsWritable n) (ht : IsPart n t) :
    t ≠ [] ∧ ' ' ∉ t ∧ ')' ∉ t ∧ '/' ∉ t := by
  have hnone : ∀ c : Char, isNumeralChar c = false → c ∉ n := by
    intro c hc hmem
    rw [h.numeral c hmem] at hc
    cases hc
  have hblank := hnone ' ' (by decide)
  have hclose := hnone ')' (by decide)
  have hslash := hnone '/' (by decide)
  rcases ht with rfl | rfl
  · exact ⟨h.ne_nil, hblank, hclose, hslash⟩
  · simp [hblank, hclose, hslash]

/-- What stands between the parentheses of a call. -/
theorem inside_functionText {target : Target} {x y z alpha : Text} (hx : ')' ∉ x) (hy : ')' ∉ y)
    (hz : ')' ∉ z) (halpha : ')' ∉ alpha) :
    (((Rendering.functionText target.name x y z alpha).dropWhile (· != '(')).drop 1).takeWhile
        (· != ')') = x ++ ' ' :: (y ++ ' ' :: (z ++ alpha)) := by
  have hopen : ∀ t : Text, (target.name ++ '(' :: t).dropWhile (· != '(') = '(' :: t := by
    intro t
    cases target <;> rfl
  have hshape : Rendering.functionText target.name x y z alpha =
      target.name ++ '(' :: ((x ++ ' ' :: (y ++ ' ' :: (z ++ alpha))) ++ [')']) := by
    simp [Rendering.functionText]
  rw [hshape, hopen, List.drop_one, List.tail_cons]
  refine Grammar.takeWhile_run (fun c hc => ?_) rfl
  rw [bne_iff_ne]
  rintro rfl
  simp [hx, hy, hz, halpha] at hc

/-- The numbers of a call are the numerals that it was put together from. -/
theorem components_functionText (target : Target) {x y z x' y' z' : Text} (hx : IsWritable x)
    (hy : IsWritable y) (hz : IsWritable z) (hx' : IsPart x x') (hy' : IsPart y y')
    (hz' : IsPart z z') :
    components (Rendering.functionText target.name x' y' z' []) = [x, y, z] ∧
      ∀ a, IsWritable a →
        components (Rendering.functionText target.name x' y' z' (" / ".toList ++ a)) =
          [x, y, z, a] := by
  obtain ⟨hxne, hxb, hxc, hxs⟩ := part_notMem hx hx'
  obtain ⟨hyne, hyb, hyc, hys⟩ := part_notMem hy hy'
  obtain ⟨hzne, hzb, hzc, hzs⟩ := part_notMem hz hz'
  have hslash : ∀ {t : Text}, '/' ∉ t → t ≠ ['/'] := by
    rintro t ht rfl
    exact ht List.mem_cons_self
  constructor
  · rw [components, inside_functionText hxc hyc hzc List.not_mem_nil, List.append_nil,
      betweenBlanks_append hxb, betweenBlanks_append hyb, betweenBlanks_word hzb]
    simp [hxne, hyne, hzne, hslash hxs, hslash hys, hslash hzs, withoutPercent_of_isPart hx hx',
      withoutPercent_of_isPart hy hy', withoutPercent_of_isPart hz hz']
  · intro a ha
    obtain ⟨hane, hab, hac, has⟩ := part_notMem ha (Or.inl rfl)
    have hsuffix : ')' ∉ " / ".toList ++ a := by simp [hac]
    have hblanks : z' ++ (" / ".toList ++ a) = z' ++ ' ' :: (['/'] ++ ' ' :: a) := rfl
    rw [components, inside_functionText hxc hyc hzc hsuffix, hblanks,
      betweenBlanks_append hxb, betweenBlanks_append hyb, betweenBlanks_append hzb,
      betweenBlanks_append (by decide), betweenBlanks_word hab]
    simp [hxne, hyne, hzne, hane, hslash hxs, hslash hys, hslash hzs, hslash has,
      withoutPercent_of_isPart hx hx', withoutPercent_of_isPart hy hy',
      withoutPercent_of_isPart hz hz', withoutPercent_of_isPart ha (Or.inl rfl)]

/-! ## Rendered numbers -/

/-- The lightness is made a percentage and leaves the doubles. -/
def LightnessOverflows (o : Options) (c : Color) : Prop :=
  o.target = .oklch ∧
    ∃ negative, Binary64.ofFloat ((Rendering.finiteChannels c).x * 100.0) = .infinite negative

/-- A text names nothing that is not finite. -/
def NamesFiniteOnly (out : Text) : Prop :=
  ¬ "NaN".toList <:+: out ∧ ¬ "Infinity".toList <:+: out

theorem namesFiniteOnly_of_notMem {out : Text} (hn : 'N' ∉ out) (hi : 'I' ∉ out) :
    NamesFiniteOnly out :=
  ⟨fun h => hn (h.subset List.mem_cons_self), fun h => hi (h.subset List.mem_cons_self)⟩

/-- An alpha that is undefined or between zero and one is written as a finite numeral. -/
theorem definedAlpha_isFinite {c : Color}
    (h : c.alpha.isNaN = true ∨ 0.0 ≤ c.alpha ∧ c.alpha ≤ 1.0) :
    (Binary64.ofFloat (Rendering.definedAlpha c)).IsFinite := by
  have hone : (Binary64.ofFloat 1.0).IsBelow 1 := by decide
  rw [Rendering.definedAlpha]
  split
  · exact hone.isFinite
  · rename_i hdefined
    obtain ⟨hlow, hhigh⟩ := h.resolve_left hdefined
    exact Binary64.isFinite_of_le hlow hhigh

/-- The first numeral of a call is finite, or it is the infinity of a lightness that overflows. -/
theorem Rendering.ShowsColor.first_cases {o : Options} {c : Color} {x y z a out : Text}
    (h : Rendering.ShowsColor o c x y z a out) :
    ¬ LightnessOverflows o c ∧ IsDecimal x ∨
      LightnessOverflows o c ∧
        ∃ negative : Bool, x = (if negative then ['-'] else []) ++ "Infinity".toList := by
  by_cases htarget : o.target = .oklch
  · have hhundred : (Binary64.ofFloat 100.0).IsBelow 7 := by decide
    rcases Binary64.finite_or_infinite_of_mul (finiteOrZero_isFinite c.channels.x)
      hhundred.isFinite with hfinite | ⟨negative, hinfinite⟩
    · refine Or.inl ⟨?_, (h.lightness htarget).finite hfinite⟩
      rintro ⟨-, negative, hinfinite⟩
      obtain ⟨_, _, _, hvalue⟩ := hfinite
      cases hvalue.symm.trans hinfinite
    · exact Or.inr ⟨⟨htarget, negative, hinfinite⟩, negative,
        (h.lightness htarget).infinite negative hinfinite⟩
  · exact Or.inl ⟨fun hover => htarget hover.1, h.first htarget⟩

theorem Rendering.ShowsColor.first_isWritable {o : Options} {c : Color} {x y z a out : Text}
    (h : Rendering.ShowsColor o c x y z a out) : IsWritable x := by
  refine ⟨h.first_isNumeral, ?_⟩
  rcases h.first_cases with ⟨-, hdecimal⟩ | ⟨-, negative, rfl⟩
  · exact hdecimal.ne_nil
  · cases negative <;> decide

/-- The numbers of a call are its numerals, with the alpha if it is written. -/
theorem Rendering.ShowsColor.components_eq {o : Options} {c : Color} {x y z a out : Text}
    (h : Rendering.ShowsColor o c x y z a out) (ha : IsDecimal a) :
    components out =
      x :: ([y, z] ++ if Rendering.writesAlpha o (Rendering.definedAlpha c) then [a] else []) := by
  obtain ⟨x', y', z', hx, hy, hz, rfl⟩ := h.call
  have hcomponents := components_functionText o.target h.first_isWritable
    h.second.isWritable h.third.isWritable hx hy hz
  cases Rendering.writesAlpha o (Rendering.definedAlpha c) with
  | false => exact hcomponents.1
  | true => exact hcomponents.2 a ha.isWritable

/-- A call with finite numerals names nothing that is not finite. -/
theorem Rendering.ShowsColor.namesFiniteOnly {o : Options} {c : Color} {x y z a out : Text}
    (h : Rendering.ShowsColor o c x y z a out) (hx : IsDecimal x) (ha : IsDecimal a) :
    NamesFiniteOnly out := by
  obtain ⟨x', y', z', hx', hy', hz', rfl⟩ := h.call
  have habsent : ∀ {k : Char}, isAsciiDigit k = false → k ∉ "+-.e".toList → k ≠ '%' →
      k ∉ o.target.name → k ∉ "() /".toList →
      k ∉ Rendering.functionText o.target.name x' y' z'
        (if Rendering.writesAlpha o (Rendering.definedAlpha c) then " / ".toList ++ a else []) := by
    intro k hdigit hsign hpercent hname hmark
    have hnumeral : ∀ {n : Text}, IsDecimal n → k ∉ n := by
      intro n hn hk
      rcases hn.forall_mem k hk with hk | hk
      · rw [hk] at hdigit
        cases hdigit
      · exact hsign hk
    have hpart : ∀ {n t : Text}, IsDecimal n → IsPart n t → k ∉ t := by
      rintro n t hn (rfl | rfl)
      · exact hnumeral hn
      · simp [hnumeral hn, hpercent]
    have hmarks : k ≠ '(' ∧ k ≠ ')' ∧ k ≠ ' ' ∧ k ≠ '/' := by simpa using hmark
    cases Rendering.writesAlpha o (Rendering.definedAlpha c) <;>
      simp [Rendering.functionText, hname, hmarks, hpart hx hx', hpart h.second hy',
        hpart h.third hz', hnumeral ha]
  have hname : 'N' ∉ o.target.name ∧ 'I' ∉ o.target.name := by
    cases o.target <;> decide
  exact namesFiniteOnly_of_notMem
    (habsent (by decide) (by decide) (by decide) hname.1 (by decide))
    (habsent (by decide) (by decide) (by decide) hname.2 (by decide))

/-- A hex literal has no numbers with a point, and names nothing. -/
theorem hex_components {digits : Text} (h : ∀ d ∈ digits, isHexDigit d = true) :
    components ('#' :: digits) = [] ∧ NamesFiniteOnly ('#' :: digits) := by
  have habsent : ∀ {k : Char}, isHexDigit k = false → k ≠ '#' → k ∉ '#' :: digits := by
    intro k hk hhash
    rw [List.mem_cons, not_or]
    refine ⟨hhash, fun hmem => ?_⟩
    rw [h k hmem] at hk
    cases hk
  have hopen : ('#' :: digits).dropWhile (· != '(') = [] := by
    have hall : ∀ d ∈ '#' :: digits, (d != '(') = true := by
      intro d hd
      rw [bne_iff_ne]
      rintro rfl
      exact habsent (by decide) (by decide) hd
    rw [← List.append_nil ('#' :: digits), List.dropWhile_append_of_pos hall, List.dropWhile_nil]
  refine ⟨?_, namesFiniteOnly_of_notMem (habsent (by decide) (by decide))
    (habsent (by decide) (by decide))⟩
  rw [components, hopen]
  rfl

/-- **Every number in a rendered colour is a finite decimal numeral, but for a lightness that
overflows** when it is made a percentage: that one is an infinity. Four numbers have an alpha among
them, and a hex literal has no numbers but its digits. -/
theorem render_components {c converted : Color} {o : Options}
    (hspace : c.inSpace? o.target.space = some converted)
    (halpha : converted.alpha.isNaN = true ∨ 0.0 ≤ converted.alpha ∧ converted.alpha ≤ 1.0) :
    ∃ out, c.render o = .ok out ∧
      (o.target = .hex → Grammar.IsHexLiteral out) ∧
      (o.target ≠ .hex → (components out).length = if HoldsAlpha o.target out then 4 else 3) ∧
      (¬ LightnessOverflows o converted →
        (∀ n ∈ components out, IsDecimal n) ∧ NamesFiniteOnly out) ∧
      (LightnessOverflows o converted → ∃ (negative : Bool) (rest : List Text),
        components out = ((if negative then ['-'] else []) ++ "Infinity".toList) :: rest ∧
          ∀ n ∈ rest, IsDecimal n) := by
  by_cases ho : o.target = .hex
  · obtain ⟨digits, hwritten, hdigits, -⟩ := Rendering.exists_hex ho converted
    obtain ⟨hnone, hnames⟩ := hex_components hdigits
    refine ⟨_, render_of_written hspace hwritten, fun _ => isHexLiteral_of_written ho hwritten,
      fun h => absurd ho h, fun _ => ⟨?_, hnames⟩, fun hover => ?_⟩
    · rw [hnone]
      exact List.forall_mem_nil _
    · have htarget := hover.1
      rw [ho] at htarget
      cases htarget
  · obtain ⟨x, y, z, a, out, hwritten, hshows⟩ := Rendering.exists_function ho converted
    have ha := hshows.alpha.finite (definedAlpha_isFinite halpha)
    have hcomponents := hshows.components_eq ha
    have hrest : ∀ n ∈ [y, z] ++
        (if Rendering.writesAlpha o (Rendering.definedAlpha converted) then [a] else []),
        IsDecimal n := by
      cases Rendering.writesAlpha o (Rendering.definedAlpha converted) <;>
        simp [hshows.second, hshows.third, ha]
    refine ⟨out, render_of_written hspace hwritten, fun h => absurd h ho, fun _ => ?_,
      fun hover => ?_, fun hover => ?_⟩
    · rw [hcomponents]
      simp only [hshows.holdsAlpha_iff ho]
      cases Rendering.writesAlpha o (Rendering.definedAlpha converted) <;> rfl
    · rcases hshows.first_cases with ⟨-, hx⟩ | ⟨hover', -⟩
      · refine ⟨?_, hshows.namesFiniteOnly hx ha⟩
        rw [hcomponents]
        exact List.forall_mem_cons.mpr ⟨hx, hrest⟩
      · exact absurd hover' hover
    · rcases hshows.first_cases with ⟨hover', -⟩ | ⟨-, negative, rfl⟩
      · exact absurd hover hover'
      · exact ⟨negative, _, hcomponents, hrest⟩

/-- A huge lightness, an undefined component and an infinite one. -/
theorem render_components_huge :
    ((⟨.lab, ⟨1e30, undefinedComponent, Binary64.infiniteFloat true⟩, 0.5⟩ : Color).render
        ⟨.lab, 6, true, false⟩).toOption = some "lab(1e+30 0 0 / 0.5)".toList ∧
      components "lab(1e+30 0 0 / 0.5)".toList =
        ["1e+30".toList, "0".toList, "0".toList, "0.5".toList] ∧
      ∀ n ∈ ["1e+30".toList, "0".toList, "0".toList, "0.5".toList], IsDecimal n := by
  have hrender : ((⟨.lab, ⟨1e30, undefinedComponent, Binary64.infiniteFloat true⟩, 0.5⟩ :
      Color).render ⟨.lab, 6, true, false⟩).toOption = some "lab(1e+30 0 0 / 0.5)".toList := by
    decide +kernel
  have hcomponents : components "lab(1e+30 0 0 / 0.5)".toList =
      ["1e+30".toList, "0".toList, "0".toList, "0.5".toList] := by
    decide
  have halpha : (0.0 : Float) ≤ 0.5 ∧ (0.5 : Float) ≤ 1.0 := by decide
  obtain ⟨out, hout, -, -, hfinite, -⟩ := render_components
    (c := ⟨.lab, ⟨1e30, undefinedComponent, Binary64.infiniteFloat true⟩, 0.5⟩)
    (o := ⟨.lab, 6, true, false⟩) rfl (Or.inr halpha)
  have heq := hrender
  rw [hout] at heq
  cases heq
  have hnumbers := (hfinite fun hover => absurd hover.1 (by decide)).1
  rw [hcomponents] at hnumbers
  exact ⟨hrender, hcomponents, hnumbers⟩

/-- **A finite lightness can be written as an infinity.** -/
theorem exists_infinite_component :
    ∃ (c : Color) (out : Text), Color.read? "oklch(1e308 0 0)".toList = some c ∧
      (Binary64.ofFloat c.channels.x).IsFinite ∧ c.inSpace? Target.oklch.space = some c ∧
      0.0 ≤ c.alpha ∧ c.alpha ≤ 1.0 ∧ c.render ⟨.oklch, 2, true, false⟩ = .ok out ∧
      "Infinity".toList ∈ components out ∧ ¬ IsDecimal "Infinity".toList := by
  have hevaluated : ((Color.read? "oklch(1e308 0 0)".toList).map fun c =>
      decide ((Binary64.ofFloat c.channels.x).IsBelow 1024 ∧ c.space = .oklch ∧
        0.0 ≤ c.alpha ∧ c.alpha ≤ 1.0 ∧ (c.render ⟨.oklch, 2, true, false⟩).toOption =
          some "oklch(Infinity% 0 0)".toList)) = some true := by
    decide +kernel
  have hinfinity : ¬ IsDecimal "Infinity".toList := by
    intro h
    exact absurd (h.forall_mem 'I' (by decide)) (by decide)
  obtain ⟨c, hread, hfacts⟩ := Option.map_eq_some_iff.mp hevaluated
  obtain ⟨hfinite, hspace, hlow, hhigh, hrender⟩ := of_decide_eq_true hfacts
  cases hout : c.render ⟨.oklch, 2, true, false⟩ with
  | error e =>
    rw [hout] at hrender
    cases hrender
  | ok out =>
    rw [hout] at hrender
    cases hrender
    exact ⟨c, _, hread, hfinite.isFinite, if_pos hspace, hlow, hhigh, hout, by decide, hinfinity⟩

end CssColor
