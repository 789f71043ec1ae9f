import CssColor.Proofs.ByteNotations
import CssColor.Proofs.CallReading
import CssColor.Proofs.Notation

/-!
# Bytes are read as they are written

A colour that is written as bytes is read as a colour of sRGB, with each component
near its byte. What is written in these notations has small letters only and no
blanks at its ends, so nothing is lost before it is read.

- `kept_rgbText`, `kept_hexText`: **both notations are read as they stand.**
- `Color.parse?_rgbText`, `Color.parse?_hexText`: **both are read as their bytes**,
  without an alpha; `Color.parse?_rgbText_alpha`, `Color.parse?_hexText_alpha`: with
  one.
-/

namespace CssColor

open Binary64

/-! ## Texts of small letters -/

section Kept

variable {t : Text}

/-- A numeral has small letters only. -/
theorem IsDecimal.lowercaseChar_eq (h : IsDecimal t) : ∀ c ∈ t, lowercaseChar c = c :=
  fun c hc => (plain_of_numeral (h.forall_mem c hc)).2.1

theorem IsDecimal.lowercaseChar_alpha (h : IsDecimal t) :
    ∀ c ∈ " / ".toList ++ t, lowercaseChar c = c := by
  have hslash : " / ".toList.all (fun c => decide (lowercaseChar c = c)) = true := by decide
  intro c hc
  rcases List.mem_append.mp hc with hc | hc
  · exact of_decide_eq_true (List.all_eq_true.mp hslash c hc)
  · exact h.lowercaseChar_eq c hc

/-- A text of small letters without blanks at its ends is read as it stands. -/
theorem kept_of_trim (htrim : t.trim = t) (hsmall : ∀ c ∈ t, lowercaseChar c = c) :
    t.trim.lowercase = t := by
  rw [htrim]
  exact (List.map_congr_left hsmall).trans (List.map_id _)

theorem kept_rgbText (r g b : ℕ) {alpha : Text} (halpha : ∀ c ∈ alpha, lowercaseChar c = c) :
    (rgbText r g b alpha).trim.lowercase = rgbText r g b alpha := by
  have hends : rgbText r g b alpha = ("rgb".toList ++ '(' :: intText r ++ ' ' :: intText g ++
    ' ' :: intText b ++ alpha) ++ [')'] := rfl
  refine kept_of_trim (trim_eq_self (by decide) (by decide) hends) ?_
  have hname : "rgb".toList.all (fun c => decide (lowercaseChar c = c)) = true := by decide
  intro c hc
  rw [hends] at hc
  -- the name, three numerals behind the parenthesis and the blanks, the alpha, and the end
  simp only [List.mem_append, List.mem_cons, List.not_mem_nil, or_false] at hc
  rcases hc with ((((hc | rfl | hc) | rfl | hc) | rfl | hc) | hc) | rfl
  · exact of_decide_eq_true (List.all_eq_true.mp hname c hc)
  · decide
  · exact (intText_isDecimal r).lowercaseChar_eq c hc
  · decide
  · exact (intText_isDecimal g).lowercaseChar_eq c hc
  · decide
  · exact (intText_isDecimal b).lowercaseChar_eq c hc
  · exact halpha c hc
  · decide

theorem kept_hexText {ns : List ℕ} (hns : ∀ n ∈ ns, n ≤ 255) :
    (hexText ns).trim.lowercase = hexText ns := by
  have hdigits := (bytesText_reads hns).2
  have htrim : (hexText ns).trim = hexText ns := trim_eq_self_of_nameChars (by decide) fun d hd =>
    isNameChar_of_isWordChar (isWordChar_of_isHexDigit (hdigits d hd).1)
  exact kept_of_trim htrim (List.forall_mem_cons.mpr ⟨by decide, fun d hd => (hdigits d hd).2⟩)

end Kept

/-! ## Readers -/

/-- A colour of sRGB with components near three bytes. -/
structure Color.ShowsBytes (c : Color) (r g b : ℕ) : Prop where
  space : c.space = .srgb
  red : NearByte c.channels.x r
  green : NearByte c.channels.y g
  blue : NearByte c.channels.z b

section Readers

variable {r g b a : ℕ}

/-! ### Function notation -/

/-- What is written as a call is read as one. -/
theorem Color.parse?_of_call {alpha : Text} {call : Call}
    (hcall : Call.read? (rgbText r g b alpha) = some call) :
    Color.parse? (rgbText r g b alpha) = call.color? := by
  -- no name of a colour holds a parenthesis
  have hopen : '(' ∈ rgbText r g b alpha := by
    simp [rgbText, Rendering.functionText]
  rw [parse?, nameColor?_eq_none hopen, hcall]
  · rfl
  · intro digits hdigits
    cases hdigits

/-- Three bytes are read without an alpha, or with one behind a slash. -/
theorem Color.exists_parse?_rgbText (hr : r ≤ 255) (hg : g ≤ 255) (hb : b ≤ 255) :
    ∃ v : Channels, (∀ alpha, Color.ShowsBytes ⟨.srgb, v, alpha⟩ r g b) ∧
      Color.parse? (rgbText r g b []) = some ⟨.srgb, v, 1.0⟩ ∧
      ∀ {t : Text} {x : Float}, Call.Reads t (.number x) →
        Color.parse? (rgbText r g b (" / ".toList ++ t)) = some ⟨.srgb, v, clampUnit x⟩ := by
  obtain ⟨x, hx, hfinite, hvalue⟩ := Call.exists_reads_byte hr
  obtain ⟨y, hy, hfinite', hvalue'⟩ := Call.exists_reads_byte hg
  obtain ⟨z, hz, hfinite'', hvalue''⟩ := Call.exists_reads_byte hb
  refine ⟨⟨x * (1.0 / 255.0), y * (1.0 / 255.0), z * (1.0 / 255.0)⟩, fun alpha => ?_, ?_,
    fun {t w} ht => ?_⟩
  · exact ⟨rfl, (byte_mul_byteUnit hfinite hr hvalue).2, (byte_mul_byteUnit hfinite' hg hvalue').2,
      (byte_mul_byteUnit hfinite'' hb hvalue'').2⟩
  · rw [parse?_of_call (Call.read?_three hx hy hz)]
    rfl
  · rw [parse?_of_call (Call.read?_four hx hy hz ht)]
    rfl

/-- **Three bytes are read without an alpha.** -/
theorem Color.parse?_rgbText (hr : r ≤ 255) (hg : g ≤ 255) (hb : b ≤ 255) :
    ∃ c, Color.parse? (rgbText r g b []) = some c ∧ c.ShowsBytes r g b ∧ c.alpha = 1.0 := by
  obtain ⟨v, hshows, hparse, -⟩ := exists_parse?_rgbText hr hg hb
  exact ⟨_, hparse, hshows 1.0, rfl⟩

/-- A number from zero to one is read as an alpha that is nearest to it. -/
theorem IsNearest.clampUnit {q : ℚ} {x : Float} (h : IsNearest q x) (hlow : 0 ≤ q) (hhigh : q ≤ 1) :
    IsNearest q (clampUnit x) :=
  h.congr (unitValue_clampUnit x).isFinite (h.unitValue hlow hhigh).exact_clampUnit

/-- **Three bytes are read with an alpha**, which is the double nearest to the number that is
written. -/
theorem Color.parse?_rgbText_alpha (hr : r ≤ 255) (hg : g ≤ 255) (hb : b ≤ 255) {n : PlainNumber}
    (hsign : n.negative = false) (hone : n.value ≤ 1) :
    ∃ c, Color.parse? (rgbText r g b (" / ".toList ++ n.text)) = some c ∧ c.ShowsBytes r g b ∧
      IsNearest n.value c.alpha := by
  have hnonneg : 0 ≤ n.value := by
    rw [PlainNumber.value, hsign, signed, if_neg Bool.false_ne_true]
    positivity
  obtain ⟨x, hreads, hnearest⟩ := Call.exists_reads n hsign
    (lt_trans (hone.trans_lt (by norm_num)) byte_lt_overflow)
  obtain ⟨v, hshows, -, hparse⟩ := exists_parse?_rgbText hr hg hb
  exact ⟨_, hparse hreads, hshows _, hnearest.clampUnit hnonneg hone⟩

/-! ### Hex literals -/

/-- Digits in front of others are read on their own. -/
theorem hexValues?_append {s : Text} {ds : List ℕ} (h : hexValues? s = some ds) (t : Text) :
    hexValues? (s ++ t) = (hexValues? t).map (ds ++ ·) := by
  induction s generalizing ds with
  | nil =>
    cases h
    exact (congrFun Option.map_id _).symm
  | cons c s ih =>
    rw [hexValues?] at h
    split at h
    · rename_i d more hd hmore
      cases h
      rw [List.cons_append, hexValues?, hd, ih hmore]
      cases hexValues? t <;> rfl
    · cases h

theorem hexValues?_byteDigits {n : ℕ} (hn : n ≤ 255) :
    hexValues? (byteDigits n) = some [n / 16, n % 16] := by
  have hall : ∀ n : Fin 256, hexValues? (hexDigits 2 n) = some [(n : ℕ) / 16, (n : ℕ) % 16] := by
    decide +kernel
  rw [byteDigits_eq hn]
  exact hall ⟨n, by omega⟩

/-- **The digits of bytes have the values of their halves.** -/
theorem hexValues?_bytesText {ns : List ℕ} (hns : ∀ n ∈ ns, n ≤ 255) :
    hexValues? (bytesText ns) = some (ns.flatMap fun n => [n / 16, n % 16]) := by
  induction ns with
  | nil => rfl
  | cons n ns ih =>
    have hmore := ih fun m hm => hns m (List.mem_cons_of_mem n hm)
    rw [bytesText, List.flatMap_cons, hexValues?_append (hexValues?_byteDigits
      (hns n List.mem_cons_self)), ← bytesText, hmore]
    rfl

theorem showsBytes_byteComponent (hr : r ≤ 255) (hg : g ≤ 255) (hb : b ≤ 255) (alpha : Float) :
    Color.ShowsBytes ⟨.srgb, ⟨byteComponent r, byteComponent g, byteComponent b⟩, alpha⟩ r g b :=
  ⟨rfl, (byteComponent_spec hr).2, (byteComponent_spec hg).2, (byteComponent_spec hb).2⟩

/-- **Six digits are read as three bytes.** -/
theorem Color.parse?_hexText (hr : r ≤ 255) (hg : g ≤ 255) (hb : b ≤ 255) :
    ∃ c, Color.parse? (hexText [r, g, b]) = some c ∧ c.ShowsBytes r g b ∧ c.alpha = 1.0 := by
  refine ⟨_, ?_, showsBytes_byteComponent hr hg hb 1.0, rfl⟩
  rw [hexText, parse?, hexColor?, hexValues?_bytesText (by simp; omega)]
  simp only [List.flatMap_cons, List.flatMap_nil, List.cons_append, List.nil_append,
    Nat.div_add_mod]

/-- **Eight digits are read as three bytes**, and one of the alpha. -/
theorem Color.parse?_hexText_alpha (hr : r ≤ 255) (hg : g ≤ 255) (hb : b ≤ 255) (ha : a ≤ 255) :
    ∃ c, Color.parse? (hexText [r, g, b, a]) = some c ∧ c.ShowsBytes r g b ∧
      NearByte c.alpha a := by
  refine ⟨_, ?_, showsBytes_byteComponent hr hg hb (byteComponent a), (byteComponent_spec ha).2⟩
  rw [hexText, parse?, hexColor?, hexValues?_bytesText (by simp; omega)]
  simp only [List.flatMap_cons, List.flatMap_nil, List.cons_append, List.nil_append,
    Nat.div_add_mod]

end Readers

end CssColor
