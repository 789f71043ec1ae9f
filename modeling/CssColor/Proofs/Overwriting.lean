import CssColor.Disk.Basic
import CssColor.Proofs.Encoding

/-!
# Files that are overwritten

Overwriting a file changes what stands at one place, and nothing else: neither
another file, nor where any name leads.

- `Overwritten`: one disk is another one with new bytes at a place.
- `overwritten_of_overwrite`: **overwriting does just that**.
- `Overwritten.locate`: names lead where they led.
- `Overwritten.readText`, `Overwritten.overwrite_isOk`: a file at another place is
  read and written as before.
- `readText_eq_ok_iff`: what is read are all the bytes of a file.
- `NoText`: the names and files of which nothing is read, and nothing is told.
-/

namespace CssColor

/-- What stands at a place is a file. -/
def Entry.isFile : Entry → Bool
  | .file _ => true
  | .directory => false

namespace Disk

/-- The second disk is the first one with new bytes in the file at a place. -/
structure Overwritten (d d' : Disk) (place : Location) (bytes : List UInt8) : Prop where
  was : ∃ old, d.find? place = some (.file old)
  now : ∀ here, d'.find? here = if here = place then some (.file bytes) else d.find? here
  unreadable : d'.unreadable = d.unreadable
  unwritable : d'.unwritable = d.unwritable

/-! ## Replaced entries -/

theorem lookup_replaceAt (place here : Location) (bytes : List UInt8)
    (entries : List (Location × Entry)) :
    (replaceAt place bytes entries).lookup here =
      if here = place then (entries.lookup here).map fun _ => .file bytes
      else entries.lookup here := by
  induction entries with
  | nil => simp [replaceAt]
  | cons first rest ih =>
    obtain ⟨where', entry⟩ := first
    by_cases hplace : where' = place
    · subst hplace
      by_cases hhere : here = where'
      · subst hhere
        simp [replaceAt]
      · have hne : (here == where') = false := beq_eq_false_iff_ne.mpr hhere
        simp [replaceAt, List.lookup_cons, hne, hhere]
    · rw [replaceAt, if_neg hplace, List.lookup_cons, List.lookup_cons, ih]
      by_cases hhere : here = where'
      · subst hhere
        simp [hplace]
      · have hne : (here == where') = false := beq_eq_false_iff_ne.mpr hhere
        rw [hne]

/-- A file stands at a place of its own, and among the entries. -/
theorem lookup_of_find? {d : Disk} {here : Location} {bytes : List UInt8}
    (h : d.find? here = some (.file bytes)) :
    isFixed here = false ∧ d.entries.lookup here = some (.file bytes) := by
  rw [find?] at h
  cases hfixed : isFixed here with
  | true =>
    rw [hfixed] at h
    cases h
  | false =>
    rw [hfixed] at h
    refine ⟨rfl, ?_⟩
    cases hentry : d.entries.lookup here with
    | some entry =>
      rw [hentry] at h
      exact h
    | none =>
      rw [hentry] at h
      simp only [Bool.false_eq_true, if_false] at h
      split at h
      · cases h
      · cases h

theorem find?_replaceAt {d : Disk} {place : Location} {old : List UInt8}
    (hold : d.find? place = some (.file old)) (bytes : List UInt8) (here : Location) :
    ({ d with entries := replaceAt place bytes d.entries } : Disk).find? here =
      if here = place then some (.file bytes) else d.find? here := by
  obtain ⟨hfixed, hentry⟩ := lookup_of_find? hold
  have hplaces : (replaceAt place bytes d.entries).any (fun e => here.isPrefixOf e.1) =
      d.entries.any fun e => here.isPrefixOf e.1 := by
    have hmap := congrArg (List.any · here.isPrefixOf) (map_fst_replaceAt place bytes d.entries)
    simpa [List.any_map, Function.comp_def] using hmap
  rw [find?, find?]
  simp only [lookup_replaceAt, hplaces]
  by_cases hhere : here = place
  · subst hhere
    simp [hfixed, hentry]
  · simp [hhere]

theorem file_eq_ok_iff {d : Disk} {name : Text} {place : Location} {bytes : List UInt8} :
    d.file name = .ok (place, bytes) ↔
      d.locate name = .ok place ∧ d.find? place = some (.file bytes) := by
  rw [file]
  cases hlocate : d.locate name with
  | error e => exact iff_of_false (fun h => by cases h) fun h => by cases h.1
  | ok here =>
    dsimp only
    rw [Except.ok.injEq]
    constructor
    · intro h
      split at h
      · rename_i hfind
        cases h
        exact ⟨rfl, hfind⟩
      · cases h
      · cases h
    · rintro ⟨rfl, hfind⟩
      rw [hfind]

/-- **Overwriting puts new bytes in one file** and leaves the rest. -/
theorem overwritten_of_overwrite {d d' : Disk} {name : Text} {bytes : List UInt8}
    (h : d.overwrite name bytes = .ok d') :
    ∃ place, d.locate name = .ok place ∧ d.Overwritten d' place bytes := by
  rw [overwrite] at h
  split at h
  · cases h
  · split at h
    · cases h
    · rename_i place old hfile
      obtain ⟨hlocate, hfind⟩ := file_eq_ok_iff.mp hfile
      cases h
      exact ⟨place, hlocate, ⟨old, hfind⟩, find?_replaceAt hfind bytes, rfl, rfl⟩

/-! ## Names and files -/

/-- Two disks on which the same places hold files, and the same hold directories. -/
def SameShape (d d' : Disk) : Prop :=
  ∀ here, (d'.find? here).map Entry.isFile = (d.find? here).map Entry.isFile

/-- Where a name leads is settled by what is a file and what is a directory. -/
theorem SameShape.walk {d d' : Disk} (h : d.SameShape d') (here : Location) (parts : List Text) :
    d'.walk here parts = d.walk here parts := by
  induction parts generalizing here with
  | nil => rfl
  | cons part rest ih =>
    have hhere := h here
    have hnext : (d'.find? (here ++ [part])).isNone = (d.find? (here ++ [part])).isNone := by
      rw [← Option.isNone_map (f := Entry.isFile), h, Option.isNone_map]
    rw [Disk.walk, Disk.walk]
    cases hold : d.find? here with
    | none =>
      rw [hold] at hhere
      rw [Option.map_eq_none_iff.mp hhere]
    | some entry =>
      rw [hold] at hhere
      obtain ⟨entry', hnew, hkind⟩ := Option.map_eq_some_iff.mp hhere
      rw [hnew]
      cases entry with
      | file bytes =>
        cases entry' with
        | file bytes' => rfl
        | directory => cases hkind
      | directory =>
        cases entry' with
        | file bytes' => cases hkind
        | directory => simp only [hnext, ih]

theorem SameShape.locate {d d' : Disk} (h : d.SameShape d') (name : Text) :
    d'.locate name = d.locate name := by
  rw [Disk.locate, Disk.locate]
  simp only [h.walk]

namespace Overwritten

variable {d d' : Disk} {place : Location} {bytes : List UInt8} {name : Text}

theorem sameShape (h : d.Overwritten d' place bytes) : d.SameShape d' := by
  intro here
  rw [h.now here]
  split
  · rename_i hhere
    obtain ⟨old, hold⟩ := h.was
    rw [hhere, hold]
    rfl
  · rfl

/-- Names lead where they led. -/
theorem locate (h : d.Overwritten d' place bytes) (name : Text) :
    d'.locate name = d.locate name :=
  h.sameShape.locate name

/-- A file at another place has the bytes that it had. -/
theorem file (h : d.Overwritten d' place bytes) (hname : d.locate name ≠ .ok place) :
    d'.file name = d.file name := by
  rw [Disk.file, Disk.file, h.locate name]
  cases hlocate : d.locate name with
  | error e => rfl
  | ok here =>
    have hhere : here ≠ place := by
      rintro rfl
      exact hname hlocate
    dsimp only
    rw [h.now here, if_neg hhere]

/-- A file at another place is read as before. -/
theorem readText (h : d.Overwritten d' place bytes) (hname : d.locate name ≠ .ok place) :
    d'.readText name = d.readText name := by
  rw [Disk.readText, Disk.readText, Disk.read, Disk.read, h.unreadable, h.file hname]

/-- A file at another place can be written if it could be written before. -/
theorem overwrite_isOk (h : d.Overwritten d' place bytes) (hname : d.locate name ≠ .ok place)
    (more : List UInt8) :
    (d'.overwrite name more).isOk = (d.overwrite name more).isOk := by
  rw [Disk.overwrite, Disk.overwrite, h.unwritable, h.file hname]
  cases d.unwritable.lookup name with
  | some reason => rfl
  | none =>
    dsimp only
    cases d.file name <;> rfl

end Overwritten

/-- What is read from a file are all its bytes, decoded. -/
theorem readText_eq_ok_iff {d : Disk} {name t : Text} :
    d.readText name = .ok t ↔ '\x00' ∉ name ∧ d.read name = .ok t.utf8 := by
  rw [readText]
  split
  · rename_i hnull
    exact iff_of_false (fun h => by cases h) fun h => h.1 (List.contains_iff_mem.mp hnull)
  · rename_i hnull
    have hfree : '\x00' ∉ name := fun h => hnull (List.contains_iff_mem.mpr h)
    cases hread : d.read name with
    | error e => exact iff_of_false (fun h => by cases h) fun h => by cases h.2
    | ok bytes =>
      rw [Except.ok.injEq, ← decodeUtf8_eq_ok_iff]
      dsimp only
      cases hdecode : decodeUtf8 bytes with
      | error e => exact iff_of_false (fun h => by cases h) fun h => by cases h.2
      | ok t' =>
        dsimp only
        rw [Except.ok.injEq, Except.ok.injEq]
        exact ⟨fun h => ⟨hfree, h⟩, And.right⟩

/-- There is no text under a name: no file can have it, or the bytes of its file are no text. -/
inductive NoText (d : Disk) (name : Text) : Fault → Prop where
  | name (hnull : '\x00' ∈ name) : NoText d name .nullInName
  | bytes {bytes : List UInt8} {e : Utf8Error} (hnull : '\x00' ∉ name)
    (hread : d.read name = .ok bytes) (hdecode : decodeUtf8 bytes = .error e) :
    NoText d name (.bytes e)

theorem readText_eq_fault_iff {d : Disk} {name : Text} {f : Fault} :
    d.readText name = .error (.fault f) ↔ d.NoText name f := by
  rw [readText]
  split
  · rename_i hnull
    have hmem := List.contains_iff_mem.mp hnull
    constructor
    · intro h
      cases h
      exact .name hmem
    · intro h
      cases h with
      | name _ => rfl
      | bytes hfree _ _ => exact absurd hmem hfree
  · rename_i hnull
    have hfree : '\x00' ∉ name := fun h => hnull (List.contains_iff_mem.mpr h)
    constructor
    · intro h
      split at h
      · cases h
      · rename_i hread
        split at h
        · rename_i hdecode
          cases h
          exact .bytes hfree hread hdecode
        · cases h
    · intro h
      cases h with
      | name hmem => exact absurd hmem hfree
      | bytes _ hread hdecode =>
        rw [hread]
        dsimp only
        rw [hdecode]

end Disk

end CssColor
