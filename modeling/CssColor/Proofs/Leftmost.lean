import CssColor.Proofs.Scan

/-!
# The leftmost declarations

The grammar says by offsets where a declaration can stand in a text; the scan
should report the leftmost of these places, then the leftmost behind the first,
and so on.

- `Occupies`: a declaration stands from one offset to another, with its token
  at the end. Said on the slices of the text, without patterns or search.
- `IsLeftmost`: a list holds declarations of a text in their order, none
  overlaps another, and none of the text is left uncovered.
- `isLeftmost_iff`: **the scan finds the leftmost declarations**. Whatever list
  has these properties is the one that `Declaration.find` gives, so the scan is
  sound and complete, and its order and its choices are the only possible ones.
-/

namespace CssColor

namespace Declaration

open Grammar

/-- A declaration of the grammar stands in a text from `start` up to `stop`, its token from
`tokenStart` on; some semicolon or closing brace stands at `stop` or behind it. -/
structure Occupies (t : Text) (start tokenStart stop : Nat) : Prop where
  start_le : start ≤ tokenStart
  tokenStart_le : tokenStart ≤ stop
  stop_le : stop ≤ t.length
  lead : IsLead (t.slice start tokenStart)
  token : IsToken (t.slice tokenStart stop) (t.drop stop)
  terminated : ∃ i, stop ≤ i ∧ (t[i]? = some ';' ∨ t[i]? = some '\x7d')

/-- A list holds the leftmost declarations of a text. -/
structure IsLeftmost (t : Text) (ds : List Declaration) : Prop where
  /-- Each is a declaration of the text, with its texts cut out of it. -/
  sound : ∀ d ∈ ds, Occupies t d.start d.tokenStart d.stop ∧
    t.slice d.start d.stop = d.fullText ∧ t.slice d.tokenStart d.stop = d.token
  /-- They stand one behind the other. -/
  ordered : ds.Pairwise fun d d' => d.start < d'.start ∧ d.stop ≤ d'.start
  /-- Where a declaration starts, one of them stands. -/
  complete : ∀ start tokenStart stop, Occupies t start tokenStart stop →
    ∃ d ∈ ds, d.start ≤ start ∧ start < d.stop

/-! ## Slices -/

theorem isTerminated_drop {t : Text} {j : Nat} :
    isTerminated (t.drop j) = true ↔ ∃ i, j ≤ i ∧ (t[i]? = some ';' ∨ t[i]? = some '\x7d') := by
  simp only [isTerminated, List.any_eq_true, Bool.or_eq_true, beq_iff_eq, List.mem_iff_getElem?,
    List.getElem?_drop]
  constructor
  · rintro ⟨c, ⟨i, hi⟩, rfl | rfl⟩
    · exact ⟨j + i, Nat.le_add_right j i, Or.inl hi⟩
    · exact ⟨j + i, Nat.le_add_right j i, Or.inr hi⟩
  · rintro ⟨i, hle, hi⟩
    obtain ⟨k, rfl⟩ := Nat.exists_eq_add_of_le hle
    rcases hi with hi | hi
    · exact ⟨_, ⟨k, hi⟩, Or.inl rfl⟩
    · exact ⟨_, ⟨k, hi⟩, Or.inr rfl⟩

/-- The offsets of a declaration are occupied where it stands, and its texts are cut out there. -/
theorem StandsIn.occupies {d : Declaration} {t : Text} (h : d.StandsIn t) :
    Occupies t d.start d.tokenStart d.stop ∧
      t.slice d.start d.stop = d.fullText ∧ t.slice d.tokenStart d.stop = d.token := by
  obtain ⟨before, rest, hdecl, hlen, rfl⟩ := h
  have htokenStart : d.tokenStart = (before ++ d.lead).length := by
    rw [List.length_append, hlen]
    rfl
  have hstop : d.stop = (before ++ d.lead).length + d.token.length := by
    rw [← htokenStart]
    rfl
  have hlead : (before ++ (d.lead ++ (d.token ++ rest)) : Text).slice d.start d.tokenStart =
      d.lead := by
    rw [htokenStart, ← hlen, List.length_append]
    exact Text.slice_append ..
  have htoken : (before ++ (d.lead ++ (d.token ++ rest)) : Text).slice d.tokenStart d.stop =
      d.token := by
    rw [htokenStart, hstop, ← List.append_assoc]
    exact Text.slice_append ..
  have hrest : (before ++ (d.lead ++ (d.token ++ rest))).drop d.stop = rest := by
    rw [hstop, ← List.append_assoc, ← List.append_assoc, ← List.length_append, List.drop_left]
  refine ⟨⟨Nat.le_add_right .., Nat.le_add_right .., ?_, ?_, ?_, ?_⟩, ?_, htoken⟩
  · rw [hstop]
    simp only [List.length_append]
    omega
  · rw [hlead]
    exact hdecl.lead
  · rw [htoken, hrest]
    exact hdecl.token
  · rw [← isTerminated_drop, hrest]
    exact hdecl.terminated
  · rw [hstop, ← hlen, fullText, List.length_append, Nat.add_assoc, ← List.length_append,
      ← List.append_assoc d.lead]
    exact Text.slice_append ..

/-- Occupied offsets are those of a declaration that stands in the text. -/
theorem Occupies.exists_standsIn {t : Text} {start tokenStart stop : Nat}
    (h : Occupies t start tokenStart stop) :
    ∃ d : Declaration, d.StandsIn t ∧ d.start = start ∧ d.tokenStart = tokenStart ∧
      d.stop = stop := by
  obtain ⟨hstart, htokenStart, hstop, hlead, htoken, hend⟩ := h
  have hlength : ∀ {i j : Nat}, j ≤ t.length → (t.slice i j).length = j - i := by
    intro i j hj
    rw [Text.slice, List.length_drop, List.length_take]
    omega
  have hthere : start ≤ t.length := by omega
  refine ⟨⟨start, t.slice start tokenStart, t.slice tokenStart stop⟩,
    ⟨t.take start, t.drop stop, ⟨hlead, htoken, isTerminated_drop.mpr hend⟩, ?_, ?_⟩, rfl, ?_, ?_⟩
  · rw [List.length_take]
    exact Nat.min_eq_left hthere
  · rw [Text.slice_append_drop t htokenStart hstop,
      Text.slice_append_drop t hstart (Nat.le_trans htokenStart hstop), List.take_append_drop]
  · rw [Declaration.tokenStart, hlength (Nat.le_trans htokenStart hstop)]
    exact Nat.add_sub_cancel' hstart
  · rw [Declaration.stop, Declaration.tokenStart, hlength (Nat.le_trans htokenStart hstop),
      hlength hstop, Nat.add_sub_cancel' hstart]
    exact Nat.add_sub_cancel' htokenStart

/-- A declaration with its texts cut out where it is stands in the text. -/
theorem standsIn_of_occupies {d : Declaration} {t : Text}
    (h : Occupies t d.start d.tokenStart d.stop) (hfull : t.slice d.start d.stop = d.fullText)
    (htoken : t.slice d.tokenStart d.stop = d.token) : d.StandsIn t := by
  -- its lead and token are those that the offsets cut out, as the texts are the same
  obtain ⟨⟨start, lead, token⟩, hstands, hstart, htokenStart, hstop⟩ := h.exists_standsIn
  obtain ⟨-, hfull', htoken'⟩ := hstands.occupies
  rw [hstart, hstop, hfull] at hfull'
  rw [htokenStart, hstop, htoken] at htoken'
  cases d
  cases hstart
  cases htoken'
  cases List.append_cancel_right hfull'
  exact hstands

/-! ## The scan is leftmost -/

theorem isLeftmost_find (t : Text) : IsLeftmost t (find t) where
  sound d hd := (standsIn_of_mem_find d hd).occupies
  ordered := find_ordered t
  complete start tokenStart stop h := by
    obtain ⟨d, hd, rfl, -, -⟩ := h.exists_standsIn
    exact exists_mem_find hd

section Unique

variable {t : Text} {ds ds' : List Declaration}

theorem IsLeftmost.standsIn (h : IsLeftmost t ds) {d : Declaration} (hd : d ∈ ds) :
    d.StandsIn t := by
  obtain ⟨hoccupies, hfull, htoken⟩ := h.sound d hd
  exact standsIn_of_occupies hoccupies hfull htoken

/-- Of two declarations in the list the one that starts first stops first. -/
theorem IsLeftmost.stop_le_start (h : IsLeftmost t ds) {d d' : Declaration} (hd : d ∈ ds)
    (hd' : d' ∈ ds) (hlt : d.start < d'.start) : d.stop ≤ d'.start := by
  rcases trichotomy_of_pairwise h.ordered hd hd' with hbefore | rfl | hbehind
  · exact hbefore.2
  · exact absurd hlt (Nat.lt_irrefl _)
  · exact absurd hlt (Nat.lt_asymm hbehind.1)

/-- What one list of leftmost declarations holds, every other one holds. -/
theorem IsLeftmost.mem_of_mem (h : IsLeftmost t ds) (h' : IsLeftmost t ds') {d : Declaration}
    (hd : d ∈ ds) : d ∈ ds' := by
  -- induction on the start: all declarations before this one are the same in both lists
  induction hstart : d.start using Nat.strongRecOn generalizing ds ds' d with
  | _ start ih =>
    subst hstart
    obtain ⟨other, hother, hle, hlt⟩ := h'.complete _ _ _ (h.sound d hd).1
    rcases Nat.eq_or_lt_of_le hle with heq | hbefore
    · rw [(h.standsIn hd).eq_of_start (h'.standsIn hother) heq.symm]
      exact hother
    · -- an earlier one that covers the start of this one would overlap it in its own list
      have hearlier : other ∈ ds := ih other.start hbefore h' h hother rfl
      exact absurd hlt (Nat.not_lt_of_le (h.stop_le_start hearlier hd hbefore))

theorem IsLeftmost.nodup (h : IsLeftmost t ds) : ds.Nodup := by
  refine h.ordered.imp fun hlt => ?_
  rintro rfl
  exact Nat.lt_irrefl _ hlt.1

/-- A text has one list of leftmost declarations. -/
theorem IsLeftmost.unique (h : IsLeftmost t ds) (h' : IsLeftmost t ds') : ds = ds' := by
  have hperm : ds.Perm ds' := (List.perm_ext_iff_of_nodup h.nodup h'.nodup).mpr fun _ =>
    ⟨h.mem_of_mem h', h'.mem_of_mem h⟩
  refine hperm.eq_of_pairwise (fun d d' _ _ hlt hgt => ?_) h.ordered h'.ordered
  exact absurd hlt.1 (Nat.lt_asymm hgt.1)

end Unique

/-- **The scan finds the leftmost declarations**: the list that it gives is the one that is sound,
in order and complete for the grammar. -/
theorem isLeftmost_iff {t : Text} {ds : List Declaration} :
    IsLeftmost t ds ↔ ds = find t := by
  constructor
  · intro h
    exact h.unique (isLeftmost_find t)
  · rintro rfl
    exact isLeftmost_find t

end Declaration

end CssColor
