import CssColor.Color.Conversion
import CssColor.Proofs.ByteRounding

/-!
# The alpha that is read

Alpha is the one component that is limited when a colour is read, and no change
of space touches it.

- `OfAlphas`: what holds of the few kinds of alphas that a token can give.
- `hexColor?_alpha`, `nameColor?_alpha`, `colorOfValues?_alpha`: each form of a
  token gives such an alpha.
- `read?_alpha`: **so does every token that is read.**
- `InUnit`, `InRange`: an alpha is one, below one, or undefined; it is a number
  from zero to one, or undefined.
- `alpha_of_inSpace?`: an alpha is the same in every space.
-/

namespace CssColor

/-! ## Kinds of alphas -/

/-- A property of every alpha that a token can give: it is written as a number or a byte, or not at
all, or comes with a name. -/
structure OfAlphas (P : Float → Prop) : Prop where
  one : P 1.0
  zero : P 0.0
  undefined : P undefinedComponent
  limited : ∀ x, P (clampUnit x)
  byte : ∀ {n : ℕ}, n ≤ 255 → P (byteComponent n)

/-- An alpha that a stylesheet can ask for: below one, one, or undefined. -/
def InUnit (alpha : Float) : Prop :=
  alpha < 1.0 ∨ alpha = 1.0 ∨ alpha.isNaN = true

/-- An alpha that is a number from zero to one, or undefined. -/
def InRange (alpha : Float) : Prop :=
  UnitValue alpha ∨ alpha.isNaN = true

/-- Only the greatest byte is one as a component. -/
theorem byteComponent_lt_one {n : ℕ} (hn : n < 255) : byteComponent n < 1.0 := by
  have hclose := (abs_le.mp (byteComponent_spec hn.le).2.close).2
  have hbyte : (n : ℚ) ≤ 254 := by exact_mod_cast Nat.le_of_lt_succ hn
  rw [lt_one_iff (byteComponent_spec hn.le).1.isFinite]
  linarith

theorem ofAlphas_inUnit : OfAlphas InUnit where
  one := Or.inr (Or.inl rfl)
  zero := Or.inl (by decide)
  undefined := Or.inr (Or.inr (by decide))
  limited x := by
    rcases clampUnit_cases x with hzero | hone | ⟨-, hhigh, hkept⟩
    · rw [hzero]
      exact Or.inl (by decide)
    · exact Or.inr (Or.inl hone)
    · rw [hkept]
      exact Or.inl hhigh
  byte {n} hn := by
    rcases Nat.lt_or_eq_of_le hn with hless | rfl
    · exact Or.inl (byteComponent_lt_one hless)
    · exact Or.inr (Or.inl (by decide +kernel))

theorem ofAlphas_inRange : OfAlphas InRange where
  one := Or.inl unitValue_one
  zero := Or.inl unitValue_zero
  undefined := Or.inr (by decide)
  limited x := Or.inl (unitValue_clampUnit x)
  byte hn := Or.inl (byteComponent_spec hn).1

/-! ## Readers -/

theorem hexValue?_le {c : Char} {d : Nat} (h : hexValue? c = some d) : d ≤ 15 := by
  have hle : ∀ high : Char, c ≤ high → c.toNat ≤ high.toNat := by
    intro high hc
    rwa [Char.le_def, UInt32.le_iff_toNat_le] at hc
  rw [hexValue?] at h
  split at h
  · rename_i hc
    have hdigit : c.toNat ≤ 57 := hle '9' hc.2
    cases h
    omega
  · split at h
    · rename_i hc
      have hsmall : c.toNat ≤ 102 := hle 'f' hc.2
      cases h
      omega
    · split at h
      · rename_i hc
        have hcapital : c.toNat ≤ 70 := hle 'F' hc.2
        cases h
        omega
      · cases h

theorem hexValues?_le {t : Text} {ds : List Nat} (h : hexValues? t = some ds) :
    ∀ d ∈ ds, d ≤ 15 := by
  induction t generalizing ds with
  | nil =>
    cases h
    exact List.forall_mem_nil _
  | cons c t ih =>
    rw [hexValues?] at h
    split at h
    · rename_i d ds' hd hds
      cases h
      exact List.forall_mem_cons.mpr ⟨hexValue?_le hd, ih hds⟩
    · cases h

/-- A call gives a colour by its values only. -/
theorem Call.exists_of_color? {call : Call} {c : Color} (h : call.color? = some c) :
    ∃ space unit, colorOfValues? space unit call.values = some c := by
  unfold Call.color? at h
  split at h
  · unfold Call.identifiedColor? at h
    repeat' split at h
    all_goals first
      | cases h
      | exact ⟨_, _, h⟩
  · dsimp only at h
    repeat' split at h
    all_goals first
      | cases h
      | exact ⟨_, _, h⟩

section Readers

variable {P : Float → Prop} (hP : OfAlphas P)

include hP

theorem OfAlphas.quantity (q : Quantity) : P q.alpha := by
  cases q with
  | none => exact hP.undefined
  | number x => exact hP.limited x
  | percent x => exact hP.limited _
  | angle x unit => exact hP.limited x

theorem hexColor?_alpha {digits : Text} {c : Color} (h : hexColor? digits = some c) :
    P c.alpha := by
  unfold hexColor? at h
  split at h
  · cases h
    exact hP.one
  · rename_i r g b a hdigits
    have ha := hexValues?_le hdigits a (by simp)
    cases h
    exact hP.byte (by omega)
  · cases h
    exact hP.one
  · rename_i r s g h b c a d hdigits
    have ha := hexValues?_le hdigits a (by simp)
    have hd := hexValues?_le hdigits d (by simp)
    cases h
    exact hP.byte (by omega)
  · cases h

theorem nameColor?_alpha {name : Text} {c : Color} (h : nameColor? name = some c) :
    P c.alpha := by
  rw [nameColor?] at h
  split at h
  · cases h
    exact hP.zero
  · obtain ⟨bytes, -, rfl⟩ := Option.map_eq_some_iff.mp h
    exact hP.one

theorem colorOfValues?_alpha {space : Space} {unit : Float → Float} {values : List Quantity}
    {c : Color} (h : colorOfValues? space unit values = some c) : P c.alpha := by
  unfold colorOfValues? at h
  split at h
  · cases h
    exact hP.one
  · cases h
    exact hP.quantity _
  · cases h

/-- **An alpha that is read is of one of these kinds.** -/
theorem read?_alpha {token : Text} {c : Color} (h : Color.read? token = some c) :
    P c.alpha := by
  unfold Color.read? Color.parse? at h
  split at h
  · exact hexColor?_alpha hP h
  · split at h
    · rename_i color hname
      cases h
      exact nameColor?_alpha hP hname
    · obtain ⟨call, -, hcall⟩ := Option.bind_eq_some_iff.mp h
      obtain ⟨space, unit, hvalues⟩ := Call.exists_of_color? hcall
      exact colorOfValues?_alpha hP hvalues

end Readers

/-! ## Other spaces -/

/-- Other spaces leave alpha as it is. -/
theorem alpha_of_inSpace? {c converted : Color} {space : Space}
    (h : c.inSpace? space = some converted) : converted.alpha = c.alpha := by
  rw [Color.inSpace?] at h
  split at h
  · cases h
    rfl
  · obtain ⟨v, -, rfl⟩ := Option.map_eq_some_iff.mp h
    rfl

end CssColor
