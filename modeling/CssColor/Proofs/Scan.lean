import CssColor.Declaration.Scan
import CssColor.Proofs.Grammar

/-!
# The scan for declarations

A scan only looks ahead: whether a declaration stands at a place is settled by
the text from there on. So the declarations of a text are those of its rest,
moved along.

- `find_cons`, `find_declaration`: what `Declaration.find` gives, one step at a
  time: a character where no declaration starts, or a whole declaration.
- `scanInduction`: the induction along a scan, with one case for each of these
  steps. Every property of a whole conversion is proved along it.
- `StandsIn`: a declaration stands in a text at its offset. What is found does
  (`standsIn_of_mem_find`), nothing found overlaps (`find_ordered`), and whatever
  else stands in the text is covered (`exists_mem_find`).
-/

namespace CssColor

/-! ## Slices -/

namespace Text

theorem slice_append_drop (t : Text) {i j : Nat} (h : i ≤ j) (hj : j ≤ t.length) :
    t.slice i j ++ t.drop j = t.drop i := by
  rw [Text.slice, ← List.drop_append_of_le_length (by rw [List.length_take]; omega),
    List.take_append_drop]

theorem slice_append (before middle after : Text) :
    (before ++ (middle ++ after) : Text).slice before.length (before.length + middle.length) =
      middle := by
  rw [Text.slice, ← List.append_assoc, ← List.length_append, List.take_left, List.drop_left]

theorem slice_append_left (before t : Text) :
    (before ++ t : Text).slice 0 before.length = before := by
  rw [Text.slice, List.take_left, List.drop_zero]

/-- What stands before a text moves its slices. -/
theorem slice_append_right (before t : Text) (i j : Nat) :
    (before ++ t : Text).slice (i + before.length) (j + before.length) = t.slice i j := by
  rw [Text.slice, Text.slice, Nat.add_comm i, Nat.add_comm j, List.take_length_add_append,
    List.drop_length_add_append]

end Text

namespace Declaration

open Grammar

/-! ## One place -/

theorem mem_choices {t fromToken rest : Text} :
    (fromToken, rest) ∈ choices standard t ↔
      ∃ lead token, Declares lead token rest ∧ fromToken = token ++ rest ∧
        t = lead ++ (token ++ rest) := by
  simp only [choices, List.mem_flatMap, mem_lead, List.mem_map, List.mem_filter, mem_token,
    Prod.mk.injEq]
  constructor
  · rintro ⟨_, ⟨lead, hlead, rfl⟩, _, ⟨⟨token, htoken, rfl⟩, hend⟩, rfl, rfl⟩
    exact ⟨lead, token, ⟨hlead, htoken, hend⟩, rfl, rfl⟩
  · rintro ⟨lead, token, h, rfl, rfl⟩
    exact ⟨_, ⟨lead, h.lead, rfl⟩, rest, ⟨⟨token, h.token, rfl⟩, h.terminated⟩, rfl, rfl⟩

/-- The declaration at the start of a text is found. -/
theorem atStart?_of_declares {lead token rest : Text} (h : Declares lead token rest)
    (offset : Nat) :
    atStart? standard offset (lead ++ (token ++ rest)) = some ⟨offset, lead, token⟩ := by
  have hmem := mem_choices.mpr ⟨lead, token, h, rfl, rfl⟩
  rw [atStart?]
  cases hchoices : choices standard (lead ++ (token ++ rest)) with
  | nil =>
    rw [hchoices] at hmem
    cases hmem
  | cons choice more =>
    obtain ⟨fromToken, rest'⟩ := choice
    -- the first choice is the only one, so the order of the choices does not matter
    obtain ⟨lead', token', h', rfl, heq⟩ :=
      mem_choices.mp (hchoices ▸ List.mem_cons_self :
        (fromToken, rest') ∈ choices standard (lead ++ (token ++ rest)))
    obtain ⟨rfl, rfl, rfl⟩ := h.append_inj h' heq
    simp

/-- Without a declaration at the start of a text none is found there. -/
theorem atStart?_of_not_starts {t : Text} (h : ¬ StartsDeclaration t) (offset : Nat) :
    atStart? standard offset t = none := by
  rw [atStart?]
  cases hchoices : choices standard t with
  | nil => rfl
  | cons choice more =>
    obtain ⟨fromToken, rest⟩ := choice
    obtain ⟨lead, token, hdecl, -, heq⟩ :=
      mem_choices.mp (hchoices ▸ List.mem_cons_self : (fromToken, rest) ∈ choices standard t)
    exact absurd ⟨lead, token, rest, hdecl, heq⟩ h

/-! ## Moving along -/

/-- The declaration as it stands behind `count` more characters. -/
def shift (count : Nat) (d : Declaration) : Declaration :=
  { d with start := d.start + count }

section Shift

variable (m n : Nat) (d : Declaration)

@[simp] theorem shift_start : (d.shift n).start = d.start + n := rfl

@[simp] theorem shift_lead : (d.shift n).lead = d.lead := rfl

@[simp] theorem shift_token : (d.shift n).token = d.token := rfl

@[simp] theorem shift_tokenStart : (d.shift n).tokenStart = d.tokenStart + n := by
  rw [tokenStart, tokenStart, shift_start, shift_lead, Nat.add_right_comm]

@[simp] theorem shift_stop : (d.shift n).stop = d.stop + n := by
  rw [stop, stop, shift_tokenStart, shift_token, Nat.add_right_comm]

@[simp] theorem shift_shift : (d.shift m).shift n = d.shift (m + n) := by
  rw [shift, shift, shift, Nat.add_assoc]

theorem map_shift_shift (ds : List Declaration) :
    (ds.map (shift m)).map (shift n) = ds.map (shift (m + n)) := by
  rw [List.map_map]
  exact congrArg (List.map · ds) (funext fun d => shift_shift m n d)

end Shift

theorem atStart?_shift (shapes : List Shape) (offset n : Nat) (t : Text) :
    atStart? shapes (offset + n) t = (atStart? shapes offset t).map (shift n) := by
  rw [atStart?, atStart?]
  cases choices shapes t <;> rfl

/-- Where a text begins only moves its declarations. -/
theorem findFrom_shift (shapes : List Shape) (n : Nat) (t : Text) (offset covered : Nat) :
    findFrom shapes (offset + n) covered t =
      (findFrom shapes offset covered t).map (shift n) := by
  induction t generalizing offset covered with
  | nil => cases covered <;> rfl
  | cons c t ih =>
    cases covered with
    | succ covered => rw [findFrom, findFrom, Nat.add_right_comm, ih]
    | zero =>
      rw [findFrom, findFrom, atStart?_shift]
      cases atStart? shapes offset (c :: t) with
      | none => exact (congrArg (findFrom shapes · 0 t) (Nat.add_right_comm ..)).trans (ih ..)
      | some d =>
        show _ :: findFrom shapes (offset + n + 1) _ t = _
        rw [Nat.add_right_comm, ih]
        rfl

/-- Covered characters are passed over. -/
theorem findFrom_covered (shapes : List Shape) (t : Text) (offset covered : Nat) :
    findFrom shapes offset covered t =
      findFrom shapes (offset + covered) 0 (t.drop covered) := by
  induction t generalizing offset covered with
  | nil => cases covered <;> rfl
  | cons c t ih =>
    cases covered with
    | zero => rfl
    | succ covered =>
      rw [findFrom, ih, List.drop_succ_cons, Nat.add_assoc, Nat.add_comm 1]

/-! ## One step of the scan -/

/-- Where no declaration starts, one character is passed over. -/
theorem find_cons {c : Char} {t : Text} (h : ¬ StartsDeclaration (c :: t)) :
    find (c :: t) = (find t).map (shift 1) := by
  show findFrom standard 0 0 (c :: t) = _
  rw [findFrom, atStart?_of_not_starts h]
  exact findFrom_shift standard 1 t 0 0

/-- Where a declaration starts, it is found, and the scan goes on behind it. -/
theorem find_declaration {lead token rest : Text} (h : Declares lead token rest) :
    find (lead ++ (token ++ rest)) =
      ⟨0, lead, token⟩ :: (find rest).map (shift (lead.length + token.length)) := by
  have hfound := atStart?_of_declares h 0
  cases lead with
  | nil => exact absurd rfl h.lead.ne_nil
  | cons c lead =>
    show findFrom standard 0 0 (c :: (lead ++ (token ++ rest))) = _
    rw [findFrom]
    rw [List.cons_append] at hfound
    rw [hfound]
    -- the first character has been met already, the others of the declaration are passed over
    have hcovered : (fullText ⟨0, c :: lead, token⟩).length - 1 = (lead ++ token).length := by
      rw [fullText, List.cons_append, List.length_cons, Nat.add_sub_cancel]
    show _ :: findFrom standard (0 + 1) _ _ = _
    rw [hcovered, findFrom_covered, ← List.append_assoc, List.drop_left, Nat.zero_add,
      Nat.add_comm 1, ← Nat.zero_add (_ + 1), findFrom_shift]
    simp only [List.length_append, List.length_cons, Nat.add_right_comm]
    rfl

/-- **Induction along a scan**: a text is empty, or no declaration starts it and the scan goes on
with the next character, or one does and the scan goes on behind it. -/
theorem scanInduction {motive : Text → Prop} (nil : motive [])
    (skip : ∀ c t, ¬ StartsDeclaration (c :: t) → motive t → motive (c :: t))
    (declaration : ∀ lead token rest, Declares lead token rest → motive rest →
      motive (lead ++ (token ++ rest))) (t : Text) : motive t := by
  by_cases hstart : StartsDeclaration t
  · obtain ⟨lead, token, rest, h, rfl⟩ := hstart
    have hshorter : rest.length < (lead ++ (token ++ rest)).length := h.length_lt
    exact declaration lead token rest h (scanInduction nil skip declaration rest)
  · cases t with
    | nil => exact nil
    | cons c t => exact skip c t hstart (scanInduction nil skip declaration t)
termination_by t.length

/-- No text holds more declarations than characters. -/
theorem length_find_le (t : Text) : (find t).length ≤ t.length := by
  induction t using scanInduction with
  | nil => exact Nat.zero_le _
  | skip c t hstart ih =>
    rw [find_cons hstart, List.length_map, List.length_cons]
    exact Nat.le_succ_of_le ih
  | declaration lead token rest h ih =>
    have hshorter := h.length_lt
    rw [find_declaration h, List.length_cons, List.length_map]
    omega

/-! ## Where declarations stand -/

/-- A declaration stands in a text at its offset. -/
def StandsIn (d : Declaration) (t : Text) : Prop :=
  ∃ before rest, Declares d.lead d.token rest ∧ before.length = d.start ∧
    t = before ++ (d.lead ++ (d.token ++ rest))

theorem StandsIn.shift {d : Declaration} {t : Text} (h : d.StandsIn t) (before : Text) :
    (d.shift before.length).StandsIn (before ++ t) := by
  obtain ⟨more, rest, hdecl, hlen, rfl⟩ := h
  refine ⟨before ++ more, rest, hdecl, ?_, (List.append_assoc ..).symm⟩
  rw [List.length_append, hlen, shift_start, Nat.add_comm]

/-- What stands at one offset is one declaration. -/
theorem StandsIn.eq_of_start {d d' : Declaration} {t : Text} (h : d.StandsIn t)
    (h' : d'.StandsIn t) (hstart : d.start = d'.start) : d = d' := by
  obtain ⟨before, rest, hdecl, hlen, rfl⟩ := h
  obtain ⟨before', rest', hdecl', hlen', heq⟩ := h'
  have hsame := (List.append_inj heq (by rw [hlen, hlen', hstart])).2
  obtain ⟨hlead, htoken, -⟩ := hdecl.append_inj hdecl' hsame
  cases d
  cases d'
  cases hstart
  cases hlead
  cases htoken
  rfl

/-- From the place of its token on, a text goes on with the token. -/
theorem StandsIn.drop_tokenStart {d : Declaration} {t : Text} (h : d.StandsIn t) :
    ∃ rest, Declares d.lead d.token rest ∧ t.drop d.tokenStart = d.token ++ rest := by
  obtain ⟨before, rest, hdecl, hlen, rfl⟩ := h
  refine ⟨rest, hdecl, ?_⟩
  rw [tokenStart, ← hlen, ← List.length_append, ← List.append_assoc, List.drop_left]

theorem StandsIn.start_lt_stop {d : Declaration} {t : Text} (h : d.StandsIn t) :
    d.start < d.stop := by
  obtain ⟨before, rest, hdecl, -, -⟩ := h
  have hlead := List.length_pos_iff.mpr hdecl.lead.ne_nil
  rw [stop, tokenStart]
  omega

/-- What is found stands in the text. -/
theorem standsIn_of_mem_find {t : Text} : ∀ d ∈ find t, d.StandsIn t := by
  induction t using scanInduction with
  | nil => exact fun d hd => absurd hd List.not_mem_nil
  | skip c t hno ih =>
    intro d hd
    rw [find_cons hno] at hd
    obtain ⟨found, hfound, rfl⟩ := List.mem_map.mp hd
    exact (ih found hfound).shift [c]
  | declaration lead token rest hdecl ih =>
    intro d hd
    rw [find_declaration hdecl] at hd
    rcases List.mem_cons.mp hd with rfl | hd
    · exact ⟨[], rest, hdecl, rfl, rfl⟩
    · obtain ⟨found, hfound, rfl⟩ := List.mem_map.mp hd
      rw [← List.append_assoc, ← List.length_append]
      exact (ih found hfound).shift (lead ++ token)

/-- What is found does not overlap. -/
theorem find_separate (t : Text) : (find t).Pairwise fun d d' => d.stop ≤ d'.start := by
  have hshift : ∀ {ds : List Declaration} (n : Nat),
      (ds.Pairwise fun d d' => d.stop ≤ d'.start) →
      (ds.map (shift n)).Pairwise fun d d' => d.stop ≤ d'.start := by
    intro ds n h
    refine List.pairwise_map.mpr (h.imp fun hle => ?_)
    rw [shift_stop, shift_start]
    exact Nat.add_le_add_right hle n
  induction t using scanInduction with
  | nil => exact List.Pairwise.nil
  | skip c t hno ih =>
    rw [find_cons hno]
    exact hshift 1 ih
  | declaration lead token rest hdecl ih =>
    rw [find_declaration hdecl]
    refine List.pairwise_cons.mpr ⟨fun d hd => ?_, hshift _ ih⟩
    obtain ⟨d, -, rfl⟩ := List.mem_map.mp hd
    rw [stop, tokenStart, shift_start, Nat.zero_add]
    exact Nat.le_add_left ..

/-- What is found stands in order. -/
theorem find_ordered (t : Text) :
    (find t).Pairwise fun d d' => d.start < d'.start ∧ d.stop ≤ d'.start := by
  refine (find_separate t).imp_of_mem fun {d d'} hd _ hle => ⟨?_, hle⟩
  exact Nat.lt_of_lt_of_le (standsIn_of_mem_find d hd).start_lt_stop hle

/-- Of two members of a list in order one comes first, unless they are the same. -/
theorem trichotomy_of_pairwise {α : Type} {r : α → α → Prop} {items : List α}
    (h : items.Pairwise r) {a b : α} (ha : a ∈ items) (hb : b ∈ items) :
    r a b ∨ a = b ∨ r b a := by
  obtain ⟨i, hi, rfl⟩ := List.mem_iff_getElem.mp ha
  obtain ⟨j, hj, rfl⟩ := List.mem_iff_getElem.mp hb
  rw [List.pairwise_iff_getElem] at h
  rcases Nat.lt_trichotomy i j with hij | rfl | hji
  · exact Or.inl (h i j hi hj hij)
  · exact Or.inr (Or.inl rfl)
  · exact Or.inr (Or.inr (h j i hj hi hji))

/-- Whatever stands in the text is found, or something found covers its start. -/
theorem exists_mem_find {d : Declaration} {t : Text} (h : d.StandsIn t) :
    ∃ found ∈ find t, found.start ≤ d.start ∧ d.start < found.stop := by
  obtain ⟨before, tail, hdecl, hlen, heq⟩ := h
  rw [← hlen]
  clear hlen
  induction t using scanInduction generalizing before with
  | nil =>
    have hnil := (List.append_eq_nil_iff.mp (List.append_eq_nil_iff.mp heq.symm).2).1
    exact absurd hnil hdecl.lead.ne_nil
  | skip c t hno ih =>
    cases before with
    | nil => exact absurd ⟨_, _, _, hdecl, heq⟩ hno
    | cons b before =>
      obtain ⟨found, hfound, hle, hlt⟩ := ih before (List.cons.inj heq).2
      refine ⟨found.shift 1, ?_, Nat.succ_le_succ hle, ?_⟩
      · rw [find_cons hno]
        exact List.mem_map_of_mem hfound
      · rw [shift_stop]
        exact Nat.succ_lt_succ hlt
  | declaration lead token rest hfirst ih =>
    rw [find_declaration hfirst]
    by_cases hin : before.length < lead.length + token.length
    · refine ⟨_, List.mem_cons_self, Nat.zero_le _, ?_⟩
      rw [stop, tokenStart, Nat.zero_add]
      exact hin
    · -- it stands behind the first declaration, so the rest of the scan covers it
      have hbehind : ∃ more, before = (lead ++ token) ++ more ∧
          rest = more ++ (d.lead ++ (d.token ++ tail)) := by
        rw [← List.append_assoc] at heq
        rcases List.append_eq_append_iff.mp heq with h | ⟨more, hmore, hrest⟩
        · exact h
        · have hlen := congrArg List.length hmore
          simp only [List.length_append] at hlen
          obtain rfl : more = [] := List.length_eq_zero_iff.mp (by omega)
          exact ⟨[], by simpa using hmore.symm, hrest.symm⟩
      obtain ⟨more, rfl, hrest⟩ := hbehind
      obtain ⟨found, hfound, hle, hlt⟩ := ih more hrest
      refine ⟨found.shift _, List.mem_cons_of_mem _ (List.mem_map_of_mem hfound), ?_, ?_⟩
      · rw [shift_start]
        simp only [List.length_append]
        omega
      · rw [shift_stop]
        simp only [List.length_append]
        omega

end Declaration

end CssColor
