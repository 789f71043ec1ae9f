import CssColor.Text.Utf8

/-!
# Bytes and texts

Bytes are decoded to a text exactly if they are its bytes, so what is read from a
file is all that is in it: line ends and a byte order mark are kept.

- `utf8Codes`: the bytes of a character, as numbers.
- `codes_of_utf8Follow`, `exists_lead`: a lead and what follows it are the bytes of
  one character.
- `decodeUtf8_eq_ok_iff`: **decoding and encoding are inverse**.
-/

namespace CssColor

/-- The bytes of the character with the given number. -/
def utf8Codes (v : Nat) : List Nat :=
  if v ≤ 0x7f then [v]
  else if v ≤ 0x7ff then [v / 64 + 0xc0, v % 64 + 0x80]
  else if v ≤ 0xffff then [v / 4096 + 0xe0, v / 64 % 64 + 0x80, v % 64 + 0x80]
  else [v / 262144 + 0xf0, v / 4096 % 64 + 0x80, v / 64 % 64 + 0x80, v % 64 + 0x80]

theorem toNat_lt (c : Char) : c.toNat < 0x110000 ∧ ¬ (0xd800 ≤ c.toNat ∧ c.toNat ≤ 0xdfff) := by
  have hvalid : c.toNat < 0xd800 ∨ 0xdfff < c.toNat ∧ c.toNat < 0x110000 := c.valid
  omega

theorem map_toNat_utf8EncodeChar (c : Char) :
    (String.utf8EncodeChar c).map UInt8.toNat = utf8Codes c.toNat := by
  have hlt := (toNat_lt c).1
  have hval : c.val.toNat = c.toNat := rfl
  rw [String.utf8EncodeChar, utf8Codes]
  simp only [hval]
  generalize c.toNat = v at hlt ⊢
  by_cases hone : v ≤ 0x7f
  · rw [if_pos hone, if_pos hone]
    simp
    omega
  · rw [if_neg hone, if_neg hone]
    by_cases htwo : v ≤ 0x7ff
    · rw [if_pos htwo, if_pos htwo]
      simp
      omega
    · rw [if_neg htwo, if_neg htwo]
      by_cases hthree : v ≤ 0xffff
      · rw [if_pos hthree, if_pos hthree]
        simp
        omega
      · rw [if_neg hthree, if_neg hthree]
        simp
        omega

/-- A character is settled by its bytes. -/
theorem eq_utf8EncodeChar {bytes : List UInt8} {c : Char}
    (h : bytes.map UInt8.toNat = utf8Codes c.toNat) : bytes = String.utf8EncodeChar c := by
  rw [← map_toNat_utf8EncodeChar] at h
  exact (List.map_inj_right fun _ _ => UInt8.toNat_inj.mp).mp h

theorem utf8Follow_zero_eq_ok {least most bits : Nat} {rest more : List UInt8} {c : Char} :
    utf8Follow ⟨0, least, most, bits⟩ rest = .ok (c, more) ↔ c = Char.ofNat bits ∧ rest = more := by
  rw [utf8Follow, Except.ok.injEq, Prod.mk.injEq, eq_comm]

theorem utf8Follow_succ_eq_ok {n least most bits : Nat} {rest more : List UInt8} {c : Char} :
    utf8Follow ⟨n + 1, least, most, bits⟩ rest = .ok (c, more) ↔
      ∃ b tail, rest = b :: tail ∧ least ≤ b.toNat ∧ b.toNat ≤ most ∧
        utf8Follow ⟨n, 0x80, 0xbf, bits * 64 + (b.toNat - 0x80)⟩ tail = .ok (c, more) := by
  cases rest with
  | nil => simp [utf8Follow]
  | cons b tail =>
    rw [utf8Follow]
    by_cases hinside : least ≤ b.toNat ∧ b.toNat ≤ most
    · rw [if_pos hinside]
      constructor
      · intro h
        split at h
        · rename_i done hdone
          cases h
          exact ⟨b, tail, rfl, hinside.1, hinside.2, hdone⟩
        · cases h
      · rintro ⟨b', tail', heq, -, -, hdone⟩
        obtain ⟨rfl, rfl⟩ := List.cons.inj heq
        rw [hdone]
    · rw [if_neg hinside]
      constructor
      · intro h
        cases h
      · rintro ⟨b', tail', heq, hleast, hmost, -⟩
        obtain ⟨rfl, rfl⟩ := List.cons.inj heq
        exact absurd ⟨hleast, hmost⟩ hinside

theorem toNat_ofNat {v : Nat} (h : v < 0x110000) (hs : ¬ (0xd800 ≤ v ∧ v ≤ 0xdfff)) :
    (Char.ofNat v).toNat = v := by
  have hvalid : v.isValidChar := by
    show v < 0xd800 ∨ 0xdfff < v ∧ v < 0x110000
    omega
  rw [Char.ofNat, dif_pos hvalid]
  rfl

/-- A lead and what follows it are the bytes of a character. -/
theorem codes_of_utf8Follow {b : UInt8} {lead : Utf8Lead} {rest more : List UInt8} {c : Char}
    (hlead : utf8Lead? b.toNat = some lead) (h : utf8Follow lead rest = .ok (c, more)) :
    b :: rest = String.utf8EncodeChar c ++ more := by
  suffices hbytes : ∃ tail, rest = tail ++ more ∧ (b :: tail).map UInt8.toNat = utf8Codes c.toNat by
    obtain ⟨tail, rfl, hcodes⟩ := hbytes
    rw [← eq_utf8EncodeChar hcodes]
    rfl
  rw [utf8Lead?] at hlead
  split at hlead
  · cases hlead
  · split at hlead
    · cases hlead
      obtain ⟨x, tail, rfl, hx, hx', h⟩ := utf8Follow_succ_eq_ok.mp h
      obtain ⟨hc, rfl⟩ := utf8Follow_zero_eq_ok.mp h
      refine ⟨[x], rfl, ?_⟩
      rw [hc, toNat_ofNat (by omega) (by omega), utf8Codes, if_neg (by omega), if_pos (by omega)]
      simp
      omega
    · split at hlead
      · cases hlead
        obtain ⟨x, tail, rfl, hx, hx', h⟩ := utf8Follow_succ_eq_ok.mp h
        obtain ⟨y, tail, rfl, hy, hy', h⟩ := utf8Follow_succ_eq_ok.mp h
        obtain ⟨hc, rfl⟩ := utf8Follow_zero_eq_ok.mp h
        refine ⟨[x, y], rfl, ?_⟩
        split at hx <;> split at hx' <;>
          rw [hc, toNat_ofNat (by omega) (by omega), utf8Codes, if_neg (by omega), if_neg (by omega),
            if_pos (by omega)] <;> simp <;> omega
      · split at hlead
        · cases hlead
          obtain ⟨x, tail, rfl, hx, hx', h⟩ := utf8Follow_succ_eq_ok.mp h
          obtain ⟨y, tail, rfl, hy, hy', h⟩ := utf8Follow_succ_eq_ok.mp h
          obtain ⟨z, tail, rfl, hz, hz', h⟩ := utf8Follow_succ_eq_ok.mp h
          obtain ⟨hc, rfl⟩ := utf8Follow_zero_eq_ok.mp h
          refine ⟨[x, y, z], rfl, ?_⟩
          split at hx <;> split at hx' <;>
            rw [hc, toNat_ofNat (by omega) (by omega), utf8Codes, if_neg (by omega), if_neg (by omega),
              if_neg (by omega)] <;> simp <;> omega
        · cases hlead

/-- The first byte of a longer character is a lead, and the others follow it. -/
theorem exists_lead {c : Char} (hc : 0x80 ≤ c.toNat) :
    ∃ b tail lead, String.utf8EncodeChar c = b :: tail ∧ 0x80 ≤ b.toNat ∧
      utf8Lead? b.toNat = some lead ∧
      ∀ more, utf8Follow lead (tail ++ more) = .ok (c, more) := by
  have hcodes := map_toNat_utf8EncodeChar c
  have hrange := toNat_lt c
  have hchar : ∀ {v : Nat}, v = c.toNat → c = Char.ofNat v := by
    rintro v rfl
    exact (Char.ofNat_toNat c).symm
  rw [utf8Codes, if_neg (by omega)] at hcodes
  by_cases htwo : c.toNat ≤ 0x7ff
  · rw [if_pos htwo] at hcodes
    obtain ⟨b, tail, hbytes, hb, hcodes⟩ := List.map_eq_cons_iff.mp hcodes
    obtain ⟨x, tail, rfl, hx, hcodes⟩ := List.map_eq_cons_iff.mp hcodes
    obtain rfl := List.map_eq_nil_iff.mp hcodes
    refine ⟨b, [x], ⟨1, 0x80, 0xbf, b.toNat - 0xc0⟩, hbytes, by omega, ?_, fun more => ?_⟩
    · rw [utf8Lead?, if_neg (by omega), if_pos (by omega)]
    · exact utf8Follow_succ_eq_ok.mpr ⟨x, more, rfl, by omega, by omega,
        utf8Follow_zero_eq_ok.mpr ⟨hchar (by omega), rfl⟩⟩
  · rw [if_neg htwo] at hcodes
    by_cases hthree : c.toNat ≤ 0xffff
    · rw [if_pos hthree] at hcodes
      obtain ⟨b, tail, hbytes, hb, hcodes⟩ := List.map_eq_cons_iff.mp hcodes
      obtain ⟨x, tail, rfl, hx, hcodes⟩ := List.map_eq_cons_iff.mp hcodes
      obtain ⟨y, tail, rfl, hy, hcodes⟩ := List.map_eq_cons_iff.mp hcodes
      obtain rfl := List.map_eq_nil_iff.mp hcodes
      refine ⟨b, [x, y], _, hbytes, by omega,
        by rw [utf8Lead?, if_neg (by omega), if_neg (by omega), if_pos (by omega)], fun more => ?_⟩
      exact utf8Follow_succ_eq_ok.mpr ⟨x, y :: more, rfl, by split <;> omega, by split <;> omega,
        utf8Follow_succ_eq_ok.mpr ⟨y, more, rfl, by omega, by omega,
          utf8Follow_zero_eq_ok.mpr ⟨hchar (by omega), rfl⟩⟩⟩
    · rw [if_neg hthree] at hcodes
      obtain ⟨b, tail, hbytes, hb, hcodes⟩ := List.map_eq_cons_iff.mp hcodes
      obtain ⟨x, tail, rfl, hx, hcodes⟩ := List.map_eq_cons_iff.mp hcodes
      obtain ⟨y, tail, rfl, hy, hcodes⟩ := List.map_eq_cons_iff.mp hcodes
      obtain ⟨z, tail, rfl, hz, hcodes⟩ := List.map_eq_cons_iff.mp hcodes
      obtain rfl := List.map_eq_nil_iff.mp hcodes
      refine ⟨b, [x, y, z], _, hbytes, by omega,
        by rw [utf8Lead?, if_neg (by omega), if_neg (by omega), if_neg (by omega),
          if_pos (by omega)], fun more => ?_⟩
      exact utf8Follow_succ_eq_ok.mpr ⟨x, y :: z :: more, rfl, by split <;> omega,
        by split <;> omega, utf8Follow_succ_eq_ok.mpr ⟨y, z :: more, rfl, by omega, by omega,
          utf8Follow_succ_eq_ok.mpr ⟨z, more, rfl, by omega, by omega,
            utf8Follow_zero_eq_ok.mpr ⟨hchar (by omega), rfl⟩⟩⟩⟩

theorem utf8_cons (c : Char) (t : Text) :
    Text.utf8 (c :: t) = String.utf8EncodeChar c ++ Text.utf8 t := by
  rw [Text.utf8, List.flatMap_cons]
  rfl

/-- A byte below 0x80 is a character. -/
theorem utf8EncodeChar_ascii {v : Nat} (hv : v < 0x80) :
    String.utf8EncodeChar (Char.ofNat v) = [UInt8.ofNat v] := by
  refine (eq_utf8EncodeChar ?_).symm
  rw [toNat_ofNat (by omega) (by omega), utf8Codes, if_pos (by omega)]
  simp
  omega

theorem decodeUtf8From_ascii {b : UInt8} (hb : b.toNat < 0x80) (position : Nat)
    (rest : List UInt8) :
    decodeUtf8From position (b :: rest) =
      (decodeUtf8From (position + 1) rest).map (Char.ofNat b.toNat :: ·) := by
  rw [decodeUtf8From, if_pos hb]
  cases decodeUtf8From (position + 1) rest <;> rfl

theorem decodeUtf8From_lead {b : UInt8} {lead : Utf8Lead} {rest more : List UInt8} {c : Char}
    (hb : 0x80 ≤ b.toNat) (hlead : utf8Lead? b.toNat = some lead)
    (hfollow : utf8Follow lead rest = .ok (c, more)) (position : Nat) :
    decodeUtf8From position (b :: rest) =
      (decodeUtf8From (position + (rest.length + 1 - more.length)) more).map (c :: ·) := by
  rw [decodeUtf8From, if_neg (by omega), hlead]
  dsimp only
  split
  · rename_i heq
    rw [hfollow] at heq
    cases heq
  · rename_i heq
    rw [hfollow] at heq
    cases heq
    cases decodeUtf8From (position + (rest.length + 1 - more.length)) more <;> rfl

/-- Bytes that are decoded are the bytes of the text. -/
theorem eq_utf8_of_decodeUtf8From {position : Nat} {bytes : List UInt8} {t : Text}
    (h : decodeUtf8From position bytes = .ok t) : bytes = t.utf8 := by
  induction position, bytes using decodeUtf8From.induct generalizing t with
  | case1 position =>
    rw [decodeUtf8From] at h
    cases h
    rfl
  | case2 position b rest hb t' ht' ih =>
    rw [decodeUtf8From_ascii hb, ht'] at h
    cases h
    rw [utf8_cons, utf8EncodeChar_ascii hb, UInt8.ofNat_toNat, ← ih ht']
    rfl
  | case3 position b rest hb e he =>
    rw [decodeUtf8From_ascii hb, he] at h
    cases h
  | case4 position b rest hb hlead =>
    rw [decodeUtf8From, if_neg hb, hlead] at h
    cases h
  | case5 position b rest hb lead hlead fault taken hfollow =>
    rw [decodeUtf8From, if_neg hb, hlead] at h
    dsimp only at h
    split at h
    · cases h
    · rename_i heq
      rw [hfollow] at heq
      cases heq
  | case6 position b rest hb lead hlead c more hfollow t' ht' ih =>
    rw [decodeUtf8From_lead (by omega) hlead hfollow, ht'] at h
    cases h
    rw [codes_of_utf8Follow hlead hfollow, ih ht', utf8_cons]
  | case7 position b rest hb lead hlead c more hfollow e he =>
    rw [decodeUtf8From_lead (by omega) hlead hfollow, he] at h
    cases h

/-- The bytes of a text are decoded to it. -/
theorem decodeUtf8From_utf8 (position : Nat) (t : Text) :
    decodeUtf8From position t.utf8 = .ok t := by
  induction t generalizing position with
  | nil => rw [Text.utf8, List.flatMap_nil, decodeUtf8From]
  | cons c t ih =>
    rw [utf8_cons]
    by_cases hc : c.toNat < 0x80
    · have hbytes : String.utf8EncodeChar c = [UInt8.ofNat c.toNat] := by
        rw [← utf8EncodeChar_ascii hc, Char.ofNat_toNat]
      have hcode : (UInt8.ofNat c.toNat).toNat = c.toNat := by
        simp
        omega
      rw [hbytes, List.singleton_append, decodeUtf8From_ascii (by omega), ih, hcode,
        Char.ofNat_toNat]
      rfl
    · obtain ⟨b, tail, lead, hbytes, hb, hlead, hfollow⟩ := exists_lead (Nat.le_of_not_lt hc)
      rw [hbytes, List.cons_append, decodeUtf8From_lead hb hlead (hfollow (Text.utf8 t)), ih]
      rfl

/-- **Decoding and encoding are inverse**: what is read is all that the bytes say. -/
theorem decodeUtf8_eq_ok_iff {bytes : List UInt8} {t : Text} :
    decodeUtf8 bytes = .ok t ↔ bytes = t.utf8 := by
  constructor
  · exact eq_utf8_of_decodeUtf8From
  · rintro rfl
    exact decodeUtf8From_utf8 0 t

end CssColor
