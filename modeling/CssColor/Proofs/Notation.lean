import CssColor.Proofs.AlphaSpelling
import CssColor.Proofs.CanonicalNumber
import CssColor.Proofs.Rendering

/-!
# Notations, part by part

Every colour in the space of a target is written, whatever its components are.

- `Shows`: what a text says of the double that it stands for.
- `exists_function`: **every notation but hex is a call** of the function with the
  target's name, with three numerals and an alpha.
- `exists_hex`: **the hex notation has six digits, or eight** with an alpha.
- `hasExplicitAlpha_functionText`: in a call of a target's function, what is seen of an
  alpha is the slash in front of it.
- `render_reads_back`: **what is rendered is one token of the grammar**, and its
  alpha is spelled out exactly if it was written.
-/

namespace CssColor

/-- What a text says of the double that it stands for. -/
structure Shows (x : Float) (t : Text) : Prop where
  numeral : IsNumeral t
  finite : (Binary64.ofFloat x).IsFinite → IsDecimal t
  infinite : ∀ negative, Binary64.ofFloat x = .infinite negative →
    t = (if negative then ['-'] else []) ++ "Infinity".toList

/-- A component is written as its numeral, with a percent sign or without. -/
def IsPart (numeral t : Text) : Prop :=
  t = numeral ∨ t = numeral ++ ['%']

theorem finiteOrZero_isFinite (x : Float) : (Binary64.ofFloat (finiteOrZero x)).IsFinite := by
  have hzero : (Binary64.ofFloat 0.0).IsBelow 0 := by decide
  rw [finiteOrZero]
  cases hx : Binary64.ofFloat x with
  | nan => exact hzero.isFinite
  | infinite negative => exact hzero.isFinite
  | finite negative significand exponent => exact ⟨negative, significand, exponent, hx⟩

theorem intText_isDecimal (n : Int) : IsDecimal (intText n) := by
  cases n with
  | ofNat n => exact isDecimal_mantissa false (Or.inl (isDigits_toDigits n))
  | negSucc n => exact isDecimal_mantissa true (Or.inl (isDigits_toDigits (n + 1)))

/-! ## Bytes -/

/-- A number that is not too large has a whole number near it. -/
theorem exists_roundHalfUp {x : Float} (h : (Binary64.ofFloat x).IsBelow 10) :
    ∃ n, roundHalfUp x = .ok n := by
  have hhalf : (Binary64.ofFloat 0.5).IsBelow 10 := by decide
  obtain ⟨negative, significand, exponent, hsum⟩ :=
    (Binary64.isBelow_add h hhalf (by decide)).isFinite
  rw [roundHalfUp, floorFloat, hsum]
  exact ⟨_, rfl⟩

theorem isBelow_clampUnit_mul (x : Float) :
    (Binary64.ofFloat (clampUnit x * 255.0)).IsBelow 10 :=
  Binary64.isBelow_mul (isBelow_clampUnit x) (by decide : (Binary64.ofFloat 255.0).IsBelow 8)
    (by decide)

namespace Rendering

variable {o : Options} {c : Color}

/-- Limited components fit bytes, whatever they were. -/
theorem exists_byte (x : Float) : ∃ n, byte x = .ok n := by
  obtain ⟨n, hn⟩ := exists_roundHalfUp (isBelow_clampUnit_mul x)
  exact ⟨n, mapError_eq_ok.mpr hn⟩

theorem exists_bytes (c : Color) : ∃ r g b, bytes c = .ok (r, g, b) := by
  obtain ⟨r, hr⟩ := exists_byte (finiteChannels c).x
  obtain ⟨g, hg⟩ := exists_byte (finiteChannels c).y
  obtain ⟨b, hb⟩ := exists_byte (finiteChannels c).z
  exact ⟨r, g, b, bind_eq_ok.mpr ⟨r, hr, bind_eq_ok.mpr ⟨g, hg, bind_eq_ok.mpr ⟨b, hb, rfl⟩⟩⟩⟩

theorem exists_hexByte (x : Float) : ∃ n, hexByte (clampUnit x * 255.0) = .ok (byteDigits n) := by
  obtain ⟨n, hn⟩ := exists_roundHalfUp (isBelow_clampUnit_mul x)
  exact ⟨n, map_eq_ok.mpr ⟨n, hn, rfl⟩⟩

/-! ## Parts of a call -/

/-- Every double is written, and shown by what is written. -/
theorem exists_number (o : Options) (x : Float) : ∃ t, number o x = .ok t ∧ Shows x t := by
  obtain ⟨t, ht⟩ := exists_formatNumber x o.precision
  refine ⟨t, mapError_eq_ok.mpr ht, formatNumber_isNumeral ht, fun hfinite => ?_,
    fun negative hinfinite => ?_⟩
  · obtain ⟨t', ht', hdecimal⟩ := formatNumber_of_finite o.precision hfinite
    rw [ht] at ht'
    cases ht'
    exact hdecimal
  · have ht' := formatNumber_of_infinite o.precision hinfinite
    rw [ht] at ht'
    cases ht'
    rfl

theorem exists_percentage (o : Options) (x : Float) :
    ∃ t, percentage o x = .ok (t ++ ['%']) ∧ Shows x t := by
  obtain ⟨t, ht, hshows⟩ := exists_number o x
  exact ⟨t, map_eq_ok.mpr ⟨t, ht, rfl⟩, hshows⟩

/-- The alpha is behind a slash if it is written. -/
theorem alphaPart_eq {t : Text} (ht : number o (definedAlpha c) = .ok t) :
    alphaPart o c = .ok (if writesAlpha o (definedAlpha c) then " / ".toList ++ t else []) := by
  rw [alphaPart]
  cases writesAlpha o (definedAlpha c) with
  | false => rfl
  | true => exact map_eq_ok.mpr ⟨t, ht, rfl⟩

theorem exists_alphaPart (o : Options) (c : Color) :
    ∃ t, Shows (definedAlpha c) t ∧
      alphaPart o c = .ok (if writesAlpha o (definedAlpha c) then " / ".toList ++ t else []) := by
  obtain ⟨t, ht, hshows⟩ := exists_number o (definedAlpha c)
  exact ⟨t, hshows, alphaPart_eq ht⟩

/-- A limited component is a finite percentage. -/
theorem exists_clampedPercentage (o : Options) (x : Float) :
    ∃ t, percentage o (clampUnit x * 100.0) = .ok (t ++ ['%']) ∧ IsDecimal t := by
  obtain ⟨t, ht, hshows⟩ := exists_percentage o (clampUnit x * 100.0)
  have hbelow : (Binary64.ofFloat (clampUnit x * 100.0)).IsBelow 9 :=
    Binary64.isBelow_mul (isBelow_clampUnit x) (by decide : (Binary64.ofFloat 100.0).IsBelow 7)
      (by decide)
  exact ⟨t, ht, hshows.finite hbelow.isFinite⟩

/-- A component that is written as it is has a finite numeral. -/
theorem exists_channel (o : Options) (x : Float) :
    ∃ t, number o (finiteOrZero x) = .ok t ∧ IsDecimal t := by
  obtain ⟨t, ht, hshows⟩ := exists_number o (finiteOrZero x)
  exact ⟨t, ht, hshows.finite (finiteOrZero_isFinite x)⟩

/-! ## Notations from their parts

Once the components are written, the alpha is all that is left to settle. -/

theorem oklch_eq {x y z : Text} (hx : percentage o ((finiteChannels c).x * 100.0) = .ok x)
    (hy : number o (finiteChannels c).y = .ok y) (hz : number o (finiteChannels c).z = .ok z) :
    oklch o c = (alphaPart o c).map (functionText "oklch".toList x y z) := by
  simp only [oklch, hx, hy, hz, bind, Except.bind]
  cases alphaPart o c <;> rfl

theorem raw_eq {name x y z : Text} (hx : number o (finiteChannels c).x = .ok x)
    (hy : number o (finiteChannels c).y = .ok y) (hz : number o (finiteChannels c).z = .ok z) :
    raw name o c = (alphaPart o c).map (functionText name x y z) := by
  simp only [raw, hx, hy, hz, bind, Except.bind]
  cases alphaPart o c <;> rfl

theorem rgb_eq {r g b : Int} (hbytes : bytes c = .ok (r, g, b)) :
    rgb o c = (alphaPart o c).map (functionText "rgb".toList (intText r) (intText g) (intText b)) := by
  simp only [rgb, hbytes, bind, Except.bind]
  cases alphaPart o c <;> rfl

theorem hsl_eq {x y z : Text} (hx : number o (finiteChannels c).x = .ok x)
    (hy : percentage o (clampUnit (finiteChannels c).y * 100.0) = .ok y)
    (hz : percentage o (clampUnit (finiteChannels c).z * 100.0) = .ok z) :
    hsl o c = (alphaPart o c).map (functionText "hsl".toList x y z) := by
  simp only [hsl, hx, hy, hz, bind, Except.bind]
  cases alphaPart o c <;> rfl

theorem hex_eq {r g b : Int} {last : Text} (hbytes : bytes c = .ok (r, g, b))
    (hlast : hexByte (clampUnit (definedAlpha c) * 255.0) = .ok last) :
    hex o c = .ok ('#' :: (byteDigits r ++ byteDigits g ++ byteDigits b ++
      if writesAlpha o (definedAlpha c) then last else [])) := by
  simp only [hex, hbytes, hlast, bind, Except.bind]
  cases writesAlpha o (definedAlpha c) <;> rfl

/-- A call of the target's function that shows a colour: three numerals, each with a percent sign
or without, and the alpha behind a slash if it is written. -/
structure ShowsColor (o : Options) (c : Color) (x y z a out : Text) : Prop where
  call : ∃ x' y' z', IsPart x x' ∧ IsPart y y' ∧ IsPart z z' ∧
    out = functionText o.target.name x' y' z'
      (if writesAlpha o (definedAlpha c) then " / ".toList ++ a else [])
  lightness : o.target = .oklch → Shows ((finiteChannels c).x * 100.0) x
  first : o.target ≠ .oklch → IsDecimal x
  second : IsDecimal y
  third : IsDecimal z
  alpha : Shows (definedAlpha c) a

theorem exists_oklch (ho : o.target = .oklch) (c : Color) :
    ∃ x y z a out, oklch o c = .ok out ∧ ShowsColor o c x y z a out := by
  obtain ⟨x, hx, hlightness⟩ := exists_percentage o ((finiteChannels c).x * 100.0)
  obtain ⟨y, hy, hsecond⟩ := exists_channel o c.channels.y
  obtain ⟨z, hz, hthird⟩ := exists_channel o c.channels.z
  obtain ⟨a, halpha, ha⟩ := exists_alphaPart o c
  refine ⟨x, y, z, a, _, (oklch_eq hx hy hz).trans (map_eq_ok.mpr ⟨_, ha, rfl⟩), ?_⟩
  exact
    { call := ⟨_, y, z, Or.inr rfl, Or.inl rfl, Or.inl rfl, by rw [ho]; rfl⟩
      lightness := fun _ => hlightness
      first := fun h => absurd ho h
      second := hsecond
      third := hthird
      alpha := halpha }

theorem exists_raw (ho : o.target ≠ .oklch) (c : Color) :
    ∃ x y z a out, raw o.target.name o c = .ok out ∧ ShowsColor o c x y z a out := by
  obtain ⟨x, hx, hfirst⟩ := exists_channel o c.channels.x
  obtain ⟨y, hy, hsecond⟩ := exists_channel o c.channels.y
  obtain ⟨z, hz, hthird⟩ := exists_channel o c.channels.z
  obtain ⟨a, halpha, ha⟩ := exists_alphaPart o c
  refine ⟨x, y, z, a, _, (raw_eq hx hy hz).trans (map_eq_ok.mpr ⟨_, ha, rfl⟩), ?_⟩
  exact
    { call := ⟨x, y, z, Or.inl rfl, Or.inl rfl, Or.inl rfl, rfl⟩
      lightness := fun h => absurd h ho
      first := fun _ => hfirst
      second := hsecond
      third := hthird
      alpha := halpha }

theorem exists_rgb (ho : o.target = .rgb) (c : Color) :
    ∃ x y z a out, rgb o c = .ok out ∧ ShowsColor o c x y z a out := by
  obtain ⟨r, g, b, hbytes⟩ := exists_bytes c
  obtain ⟨a, halpha, ha⟩ := exists_alphaPart o c
  refine ⟨intText r, intText g, intText b, a, _,
    (rgb_eq hbytes).trans (map_eq_ok.mpr ⟨_, ha, rfl⟩), ?_⟩
  exact
    { call := ⟨_, _, _, Or.inl rfl, Or.inl rfl, Or.inl rfl, by rw [ho]; rfl⟩
      lightness := fun h => by rw [ho] at h; cases h
      first := fun _ => intText_isDecimal r
      second := intText_isDecimal g
      third := intText_isDecimal b
      alpha := halpha }

theorem exists_hsl (ho : o.target = .hsl) (c : Color) :
    ∃ x y z a out, hsl o c = .ok out ∧ ShowsColor o c x y z a out := by
  obtain ⟨x, hx, hfirst⟩ := exists_channel o c.channels.x
  obtain ⟨y, hy, hsecond⟩ := exists_clampedPercentage o (finiteChannels c).y
  obtain ⟨z, hz, hthird⟩ := exists_clampedPercentage o (finiteChannels c).z
  obtain ⟨a, halpha, ha⟩ := exists_alphaPart o c
  refine ⟨x, y, z, a, _, (hsl_eq hx hy hz).trans (map_eq_ok.mpr ⟨_, ha, rfl⟩), ?_⟩
  exact
    { call := ⟨x, _, _, Or.inl rfl, Or.inr rfl, Or.inr rfl, by rw [ho]; rfl⟩
      lightness := fun h => by rw [ho] at h; cases h
      first := fun _ => hfirst
      second := hsecond
      third := hthird
      alpha := halpha }

/-- **Every notation but hex is a call** that shows the colour. -/
theorem exists_function (ho : o.target ≠ .hex) (c : Color) :
    ∃ x y z a out, c.written o = .ok out ∧ ShowsColor o c x y z a out := by
  rw [Color.written]
  cases htarget : o.target with
  | oklch => exact exists_oklch htarget c
  | rgb => exact exists_rgb htarget c
  | hsl => exact exists_hsl htarget c
  | hex => exact absurd htarget ho
  | oklab | lch | lab =>
    have h := exists_raw (o := o) (by rw [htarget]; decide) c
    rwa [htarget] at h

/-- **The hex notation has six digits**, and two more for an alpha that is written. -/
theorem exists_hex (ho : o.target = .hex) (c : Color) :
    ∃ digits : Text, c.written o = .ok ('#' :: digits) ∧ (∀ d ∈ digits, isHexDigit d = true) ∧
      digits.length = if writesAlpha o (definedAlpha c) then 8 else 6 := by
  obtain ⟨r, g, b, hbytes⟩ := exists_bytes c
  obtain ⟨n, hn⟩ := exists_hexByte (definedAlpha c)
  rw [Color.written, ho]
  cases halpha : writesAlpha o (definedAlpha c) with
  | false =>
    refine ⟨[r, g, b].flatMap byteDigits, ?_, (bytes_spelling _).2, (bytes_spelling _).1⟩
    rw [hex_eq hbytes hn, halpha]
    simp
  | true =>
    refine ⟨[r, g, b, n].flatMap byteDigits, ?_, (bytes_spelling _).2, (bytes_spelling _).1⟩
    rw [hex_eq hbytes hn, halpha]
    simp

end Rendering

/-! ## The alpha that is seen -/

/-- A call of a target's function is no call that always has an alpha. -/
theorem hasExplicitAlpha_functionText {target : Target} {x y z alpha : Text}
    (htarget : target ≠ .hex)
    (hcall : Grammar.IsCall (Rendering.functionText target.name x y z alpha)) :
    hasExplicitAlpha (Rendering.functionText target.name x y z alpha) = true ↔
      '/' ∈ Rendering.functionText target.name x y z alpha := by
  obtain ⟨name, args, hname, hargs, heq⟩ := hcall
  obtain rfl : name = target.name := by
    have hopen : '(' ∉ target.name := by
      cases target <;> decide
    have hparts : name ++ '(' :: (args ++ [')']) =
        target.name ++ '(' :: (x ++ ' ' :: (y ++ ' ' :: (z ++ (alpha ++ [')'])))) := by
      rw [← heq]
      simp [Rendering.functionText]
    exact (Grammar.close_inj (hname.notMem rfl) hopen hparts).1
  have halways : target.name.map Char.toLower ∉ alphaFunctions := by
    cases target <;> decide
  rw [heq, hasExplicitAlpha_call hname hargs, slash_mem_call hname, or_iff_left halways]

/-- Numerals hold no slash. -/
theorem IsNumeral.slash_notMem {t : Text} (h : IsNumeral t) : '/' ∉ t := by
  intro hc
  exact absurd (h _ hc) (by decide)

theorem IsDecimal.isNumeral {t : Text} (h : IsDecimal t) : IsNumeral t := by
  have hsigns : ∀ c ∈ "+-.e".toList, isNumeralChar c = true := List.all_eq_true.mp rfl
  intro c hc
  rcases h.forall_mem c hc with hdigit | hsign
  · rw [isNumeralChar, hdigit]
    rfl
  · exact hsigns c hsign

/-- The first component of a call is made of the characters of numbers, as the others are. -/
theorem Rendering.ShowsColor.first_isNumeral {o : Options} {c : Color} {x y z a out : Text}
    (h : Rendering.ShowsColor o c x y z a out) : IsNumeral x := by
  by_cases htarget : o.target = .oklch
  · exact (h.lightness htarget).numeral
  · exact (h.first htarget).isNumeral

/-- The only slash in a call is the one in front of the alpha. -/
theorem Rendering.ShowsColor.slash_mem_iff {o : Options} {c : Color} {x y z a out : Text}
    (h : Rendering.ShowsColor o c x y z a out) :
    '/' ∈ out ↔ Rendering.writesAlpha o (Rendering.definedAlpha c) = true := by
  have hpart : ∀ {n t : Text}, IsPart n t → '/' ∉ n → '/' ∉ t := by
    rintro n t (rfl | rfl) hn
    · exact hn
    · simpa using hn
  have hname : '/' ∉ o.target.name := by
    cases o.target <;> decide
  obtain ⟨x', y', z', hx, hy, hz, rfl⟩ := h.call
  have hx' := hpart hx h.first_isNumeral.slash_notMem
  have hy' := hpart hy h.second.isNumeral.slash_notMem
  have hz' := hpart hz h.third.isNumeral.slash_notMem
  cases Rendering.writesAlpha o (Rendering.definedAlpha c) with
  | false => simp [Rendering.functionText, hname, hx', hy', hz']
  | true => simp [Rendering.functionText]

/-! ## Rendered colours -/

/-- An alpha stands in a rendered text: behind a slash, or as the last two of eight digits. -/
def HoldsAlpha (target : Target) (out : Text) : Prop :=
  if target = .hex then out.length = 9 else '/' ∈ out

instance (target : Target) (out : Text) : Decidable (HoldsAlpha target out) :=
  inferInstanceAs (Decidable (if target = .hex then out.length = 9 else '/' ∈ out))

/-- An alpha below one is written, and one that the options keep; an undefined one is one. -/
theorem writesAlpha_definedAlpha (o : Options) (c : Color) :
    Rendering.writesAlpha o (Rendering.definedAlpha c) = true ↔
      c.alpha < 1.0 ∨ o.useOpacity = true ∧ o.explicitAlpha = true := by
  have hbelow : Rendering.definedAlpha c < 1.0 ↔ c.alpha < 1.0 := by
    rw [Rendering.definedAlpha]
    split
    · rename_i hnan
      have hone : ¬ (1.0 : Float) < 1.0 := by decide
      exact iff_of_false hone (Binary64.not_lt_of_isNaN hnan)
    · exact Iff.rfl
  rw [Rendering.writesAlpha, Bool.or_eq_true, Bool.and_eq_true, decide_eq_true_eq, hbelow]

/-- A colour that the space of the target has is rendered as its notation. -/
theorem render_of_written {c converted : Color} {o : Options} {out : Text}
    (hspace : c.inSpace? o.target.space = some converted) (h : converted.written o = .ok out) :
    c.render o = .ok out :=
  ColorLibrary.render_eq_ok_iff.mpr ⟨converted, hspace, h⟩

/-- A token behind a property name and in front of a semicolon is all that is found. -/
theorem find_property {name token : Text} (hname : Grammar.IsPropertyName name)
    (htoken : Grammar.IsToken token [';']) :
    Declaration.find (name ++ ": ".toList ++ token ++ [';']) =
      [⟨0, name ++ ": ".toList, token⟩] := by
  have hlead : Grammar.IsLead (name ++ ": ".toList) :=
    ⟨name, [], [' '], hname, List.forall_mem_nil _, List.all_eq_true.mp rfl, rfl⟩
  have hdeclares : Grammar.Declares (name ++ ": ".toList) token [';'] := ⟨hlead, htoken, rfl⟩
  have hrest : Declaration.find [';'] = [] :=
    Declaration.find_cons (Grammar.not_startsDeclaration rfl)
  rw [List.append_assoc, Declaration.find_declaration hdeclares, hrest]
  rfl

theorem holdsAlpha_digits {o : Options} (ho : o.target = .hex) (digits : Text) :
    HoldsAlpha o.target ('#' :: digits) ↔ digits.length = 8 := by
  rw [HoldsAlpha, if_pos ho, List.length_cons]
  omega

theorem Rendering.ShowsColor.holdsAlpha_iff {o : Options} {c : Color} {x y z a out : Text}
    (h : Rendering.ShowsColor o c x y z a out) (ho : o.target ≠ .hex) :
    HoldsAlpha o.target out ↔ Rendering.writesAlpha o (Rendering.definedAlpha c) = true := by
  rw [HoldsAlpha, if_neg ho, h.slash_mem_iff]

/-- Every notation holds the alpha that is written and no other, and shows it. -/
theorem exists_written (c : Color) (o : Options) :
    ∃ out, c.written o = .ok out ∧ Grammar.IsToken out [';'] ∧
      (hasExplicitAlpha out = true ↔ HoldsAlpha o.target out) ∧
      (HoldsAlpha o.target out ↔ Rendering.writesAlpha o (Rendering.definedAlpha c) = true) := by
  by_cases ho : o.target = .hex
  · obtain ⟨digits, hwritten, hdigits, hlength⟩ := Rendering.exists_hex ho c
    refine ⟨_, hwritten, .hex (isHexLiteral_of_written ho hwritten) rfl, ?_, ?_⟩
    · rw [holdsAlpha_digits ho]
      have hcount : digits.length = 6 ∨ digits.length = 8 := by
        rw [hlength]
        cases Rendering.writesAlpha o (Rendering.definedAlpha c) <;> decide
      rw [hasExplicitAlpha_digits (by rcases hcount with h | h <;> rw [h] <;> decide) hdigits]
      omega
    · rw [holdsAlpha_digits ho, hlength]
      cases Rendering.writesAlpha o (Rendering.definedAlpha c) <;> decide
  · obtain ⟨x, y, z, a, out, hwritten, hshows⟩ := Rendering.exists_function ho c
    have hcall := isCall_of_written ho hwritten
    refine ⟨out, hwritten, .call hcall, ?_, hshows.holdsAlpha_iff ho⟩
    rw [HoldsAlpha, if_neg ho]
    obtain ⟨x', y', z', -, -, -, rfl⟩ := hshows.call
    exact hasExplicitAlpha_functionText ho hcall

/-- **What is rendered is one token of the grammar**: behind any property name it is found whole.
Its alpha is spelled out exactly if it was written. -/
theorem render_reads_back {c converted : Color} {o : Options} {name : Text}
    (hname : Grammar.IsPropertyName name) (hspace : c.inSpace? o.target.space = some converted) :
    ∃ out, c.render o = .ok out ∧
      Declaration.find (name ++ ": ".toList ++ out ++ [';']) =
        [⟨0, name ++ ": ".toList, out⟩] ∧
      (hasExplicitAlpha out = true ↔ HoldsAlpha o.target out) ∧
      (HoldsAlpha o.target out ↔
        converted.alpha < 1.0 ∨ o.useOpacity = true ∧ o.explicitAlpha = true) := by
  obtain ⟨out, hwritten, htoken, hseen, hheld⟩ := exists_written converted o
  refine ⟨out, render_of_written hspace hwritten, find_property hname htoken, hseen, ?_⟩
  rw [hheld, writesAlpha_definedAlpha]

/-- A red whose blue is undefined, half transparent, behind a custom property. -/
theorem render_reads_back_red :
    Grammar.IsPropertyName "--accent".toList ∧
      ((⟨.srgb, ⟨1.0, 0.0, undefinedComponent⟩, 0.5⟩ : Color).render
        ⟨.rgb, 2, true, false⟩).toOption = some "rgb(255 0 0 / 0.5)".toList ∧
      Declaration.find "--accent: rgb(255 0 0 / 0.5);".toList =
        [⟨0, "--accent: ".toList, "rgb(255 0 0 / 0.5)".toList⟩] ∧
      hasExplicitAlpha "rgb(255 0 0 / 0.5)".toList = true := by
  have hname : Grammar.IsPropertyName "--accent".toList :=
    Or.inl ⟨"accent".toList, by decide, List.all_eq_true.mp rfl, rfl⟩
  have hrender : ((⟨.srgb, ⟨1.0, 0.0, undefinedComponent⟩, 0.5⟩ : Color).render
      ⟨.rgb, 2, true, false⟩).toOption = some "rgb(255 0 0 / 0.5)".toList := by
    decide +kernel
  obtain ⟨out, hout, hfind, hseen, hheld⟩ := render_reads_back
    (c := ⟨.srgb, ⟨1.0, 0.0, undefinedComponent⟩, 0.5⟩) (o := ⟨.rgb, 2, true, false⟩) hname rfl
  have heq := hrender
  rw [hout] at heq
  cases heq
  exact ⟨hname, hrender, hfind, hseen.mpr (hheld.mpr (Or.inl (by decide)))⟩

end CssColor
