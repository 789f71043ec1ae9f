import CssColor.Proofs.Except
import CssColor.Proofs.Overwriting
import CssColor.Settings.File

/-!
# Settings that end a run

What is wrong with a settings file is told, and the run is refused. What nobody
looks for ends the run at once: bytes that are no text, a scalar that denotes
nothing, an infinite number of decimal places, and a wrong value that the message
about it cannot show, for a number that is too long or for values inside one
another too often.

- `refuse_eq_fault_iff`: a value is refused in order if it can be shown.
- `PrecisionFaults`, `precisionOf_eq_fault_iff`: the values that are no count of
  decimal places, and cannot be told to be none.
- `Settings.Faults`, `ofEntries_eq_fault_iff`: the entries with such a value, where
  no other value is refused before.
- `Settings.FileFaults`, `load_eq_fault_iff`: **the settings files that end a run**.
-/

namespace CssColor

/-! ## Single values -/

section Values

variable {α : Type} {depths : Depths} {v : Value} {f : Fault}

/-- A value is refused in order if it can be shown. -/
theorem refuse_eq_fault_iff {e : SettingsError} :
    (refuse depths v e : Except (Failure SettingsError) α) = .error (.fault f) ↔
      ∃ hindrance, v.check depths.shown = .error hindrance ∧ f = .unshown hindrance := by
  rw [refuse]
  cases v.check depths.shown with
  | ok _ => exact iff_of_false (fun h => by cases h) fun ⟨_, h, _⟩ => by cases h
  | error hindrance =>
    constructor
    · intro h
      cases h
      exact ⟨hindrance, rfl, rfl⟩
    · rintro ⟨_, h, rfl⟩
      cases h
      rfl

theorem truncate_eq_infinite_iff {x : Float} :
    truncate x = .error .infinite ↔ ∃ negative, Binary64.ofFloat x = .infinite negative := by
  rw [truncate]
  cases Binary64.ofFloat x <;> simp

/-- Of all values only doubles are infinite. -/
theorem wholeOf_eq_infinite_iff :
    wholeOf v = .error .infinite ↔
      ∃ x negative, v = .float x ∧ Binary64.ofFloat x = .infinite negative := by
  have htext : ∀ t : Text,
      (t.integer.mapError fun _ => WholeError.notANumber) ≠ .error .infinite := by
    intro t
    cases t.integer <;> exact nofun
  cases v with
  | float x =>
    rw [wholeOf, truncate_eq_infinite_iff]
    simp
  | text t => exact iff_of_false (htext t) nofun
  | bytes bytes =>
    refine iff_of_false ?_ nofun
    dsimp only [wholeOf]
    split
    · exact htext _
    · exact nofun
  | _ => exact iff_of_false nofun nofun

/-- A value is no count of decimal places, and cannot be told to be none: it is infinite, or it
cannot be shown. -/
inductive PrecisionFaults (depths : Depths) : Value → Fault → Prop where
  | infinite {x : Float} {negative : Bool} (h : Binary64.ofFloat x = .infinite negative) :
    PrecisionFaults depths (.float x) (.whole .infinite)
  | unshown {v : Value} {e : ShowError} (hnone : wholeOf v = .error .notANumber)
    (h : v.check depths.shown = .error e) : PrecisionFaults depths v (.unshown e)

theorem precisionOf_eq_fault_iff :
    precisionOf depths v = .error (.fault f) ↔ PrecisionFaults depths v f := by
  rw [precisionOf]
  constructor
  · intro h
    split at h
    · cases h
    · rename_i hnone
      obtain ⟨e, he, rfl⟩ := refuse_eq_fault_iff.mp h
      exact .unshown hnone he
    · rename_i hinfinite
      cases h
      obtain ⟨x, negative, rfl, hx⟩ := wholeOf_eq_infinite_iff.mp hinfinite
      exact .infinite hx
  · intro h
    cases h with
    | infinite h => rw [wholeOf_eq_infinite_iff.mpr ⟨_, _, rfl, h⟩]
    | unshown hnone h =>
      rw [hnone]
      exact refuse_eq_fault_iff.mpr ⟨_, h, rfl⟩

theorem truthOf_eq_fault_iff {name : Text} :
    truthOf depths name v = .error (.fault f) ↔
      (∀ b, v ≠ .bool b) ∧ ∃ e, v.check depths.shown = .error e ∧ f = .unshown e := by
  cases v with
  | bool b => exact iff_of_false (fun h => by cases h) fun h => h.1 b rfl
  | _ => exact refuse_eq_fault_iff.trans (and_iff_right nofun).symm

/-- What is no target is told, unless its text cannot be made for values inside one another. -/
theorem targetOf_eq_fault_iff :
    targetOf depths v = .error (.fault f) ↔
      v.checkPlain depths.targets = .error .tooDeep ∧ f = .unshown .tooDeep := by
  rw [targetOf]
  cases v.checkPlain depths.targets with
  | ok _ =>
    refine iff_of_false ?_ fun h => by cases h.1
    cases Target.ofValue v <;> exact nofun
  | error e =>
    cases e with
    | long e => exact iff_of_false nofun fun h => by cases h.1
    | tooDeep =>
      constructor
      · intro h
        cases h
        exact ⟨rfl, rfl⟩
      · rintro ⟨-, rfl⟩
        rfl

end Values

/-! ## Entries -/

namespace Settings

section Entries

variable {α : Type} {depths : Depths} {entries : List (Value × Value)} {f : Fault}

theorem setting_eq_error_iff {read : Value → Except (Failure SettingsError) α}
    {spellings : List Text} {fallback : α} {e : Failure SettingsError} :
    setting read spellings fallback entries = .error e ↔
      ∃ v, chosen? spellings entries = some v ∧ read v = .error e := by
  rw [setting]
  cases chosen? spellings entries with
  | none => exact iff_of_false (fun h => by cases h) fun ⟨v, h, _⟩ => by cases h
  | some v => simp

/-- The entries have a target, or none that is refused. -/
def HasTarget (depths : Depths) (entries : List (Value × Value)) : Prop :=
  ∃ target, setting (targetOf depths) targetKeys ({} : Settings).target entries = .ok target

/-- The entries have a precision, or none that is refused. -/
def HasPrecision (depths : Depths) (entries : List (Value × Value)) : Prop :=
  ∃ precision,
    setting (precisionOf depths) precisionKeys ({} : Settings).precision entries = .ok precision

/-- The entries settle whether an alpha of one is kept, or leave it out. -/
def HasOpacity (depths : Depths) (entries : List (Value × Value)) : Prop :=
  ∃ keep, setting (truthOf depths "use_opacity".toList) opacityKeys ({} : Settings).useOpacity
    entries = .ok keep

/-- Entries hold a value that is wrong and cannot be told to be so, and nothing that is refused
before it. -/
inductive Faults (depths : Depths) (entries : List (Value × Value)) : Fault → Prop where
  | target {v : Value} (hv : chosen? targetKeys entries = some v)
    (h : v.checkPlain depths.targets = .error .tooDeep) : Faults depths entries (.unshown .tooDeep)
  | precision {v : Value} {f : Fault} (htarget : HasTarget depths entries)
    (hv : chosen? precisionKeys entries = some v) (h : PrecisionFaults depths v f) :
    Faults depths entries f
  | opacity {v : Value} {e : ShowError} (htarget : HasTarget depths entries)
    (hprecision : HasPrecision depths entries) (hv : chosen? opacityKeys entries = some v)
    (hbool : ∀ b, v ≠ .bool b) (h : v.check depths.shown = .error e) :
    Faults depths entries (.unshown e)
  | prompt {v : Value} {e : ShowError} (htarget : HasTarget depths entries)
    (hprecision : HasPrecision depths entries) (hopacity : HasOpacity depths entries)
    (hv : chosen? promptKeys entries = some v) (hbool : ∀ b, v ≠ .bool b)
    (h : v.check depths.shown = .error e) : Faults depths entries (.unshown e)

theorem ofEntries_eq_fault_iff :
    ofEntries depths entries = .error (.fault f) ↔ Faults depths entries f := by
  rw [ofEntries]
  simp only [bind_eq_error_iff, setting_eq_error_iff, targetOf_eq_fault_iff,
    precisionOf_eq_fault_iff, truthOf_eq_fault_iff]
  constructor
  · rintro (⟨v, hv, h, rfl⟩ | ⟨target, htarget, ⟨v, hv, h⟩ | ⟨precision, hprecision,
      ⟨v, hv, hbool, e, h, rfl⟩ | ⟨keep, hkeep, ⟨v, hv, hbool, e, h, rfl⟩ | ⟨prompt, -, h⟩⟩⟩⟩)
    · exact .target hv h
    · exact .precision ⟨target, htarget⟩ hv h
    · exact .opacity ⟨target, htarget⟩ ⟨precision, hprecision⟩ hv hbool h
    · exact .prompt ⟨target, htarget⟩ ⟨precision, hprecision⟩ ⟨keep, hkeep⟩ hv hbool h
    · cases h
  · intro h
    cases h with
    | target hv h => exact Or.inl ⟨_, hv, h, rfl⟩
    | precision htarget hv h =>
      obtain ⟨target, htarget⟩ := htarget
      exact Or.inr ⟨target, htarget, Or.inl ⟨_, hv, h⟩⟩
    | opacity htarget hprecision hv hbool h =>
      obtain ⟨target, htarget⟩ := htarget
      obtain ⟨precision, hprecision⟩ := hprecision
      exact Or.inr ⟨target, htarget, Or.inr ⟨precision, hprecision,
        Or.inl ⟨_, hv, hbool, _, h, rfl⟩⟩⟩
    | prompt htarget hprecision hopacity hv hbool h =>
      obtain ⟨target, htarget⟩ := htarget
      obtain ⟨precision, hprecision⟩ := hprecision
      obtain ⟨keep, hkeep⟩ := hopacity
      exact Or.inr ⟨target, htarget, Or.inr ⟨precision, hprecision,
        Or.inr ⟨keep, hkeep, Or.inl ⟨_, hv, hbool, _, h, rfl⟩⟩⟩⟩

theorem ofValue_eq_fault_iff {v : Value} :
    ofValue depths v = .error (.fault f) ↔
      ∃ entries, v.opened = .mapping entries ∧ Faults depths (effective entries) f := by
  rw [ofValue]
  cases v.opened with
  | mapping entries => simp [ofEntries_eq_fault_iff]
  | _ => exact iff_of_false (fun h => by cases h) fun ⟨_, h, _⟩ => by cases h

end Entries

/-! ## Files -/

/-- A settings file ends the run: there is no text under its name, a scalar in it denotes nothing,
or its entries hold a value that cannot be told to be wrong. -/
inductive FileFaults (depths : Depths) (name : Text) (d : Disk) : Fault → Prop where
  | noText {f : Fault} (h : d.NoText name f) : FileFaults depths name d f
  | scalar {t : Text} {e : Yaml.ScalarError} (hread : d.readText name = .ok t)
    (h : Yaml.read depths t.unifyLineEnds = .error (.scalar e)) :
    FileFaults depths name d (.scalar e)
  | entries {t : Text} {v : Value} {entries : List (Value × Value)} {f : Fault}
    (hread : d.readText name = .ok t) (hvalue : Yaml.read depths t.unifyLineEnds = .ok v)
    (hopened : v.opened = .mapping entries) (h : Faults depths (effective entries) f) :
    FileFaults depths name d f

theorem readFile_eq_fault_iff {depths : Depths} {name : Text} {d : Disk} {f : Fault} :
    readFile depths name d = .error (.fault f) ↔ FileFaults depths name d f := by
  rw [readFile]
  constructor
  · intro h
    split at h
    · rename_i hread
      cases h
      exact .noText (Disk.readText_eq_fault_iff.mp hread)
    · cases h
    · rename_i hread
      split at h
      · cases h
      · rename_i hscalar
        cases h
        exact .scalar hread hscalar
      · rename_i hvalue
        obtain ⟨entries, hopened, hfaults⟩ := ofValue_eq_fault_iff.mp h
        exact .entries hread hvalue hopened hfaults
  · intro h
    cases h with
    | noText h => rw [Disk.readText_eq_fault_iff.mpr h]
    | scalar hread h =>
      rw [hread]
      dsimp only
      rw [h]
    | entries hread hvalue hopened h =>
      rw [hread]
      dsimp only
      rw [hvalue]
      exact ofValue_eq_fault_iff.mpr ⟨_, hopened, h⟩

/-- **The settings files that end a run.** -/
theorem load_eq_fault_iff {depths : Depths} {path : Option Text} {d : Disk} {f : Fault} :
    load depths path d = .error (.fault f) ↔
      ∃ name, source? path d = some name ∧ FileFaults depths name d f := by
  rw [load]
  cases source? path d with
  | none => exact iff_of_false (fun h => by cases h) fun ⟨_, h, _⟩ => by cases h
  | some name =>
    simp only [Option.some.injEq, exists_eq_left', ← readFile_eq_fault_iff]
    cases readFile depths name d <;> simp [Except.map]

end Settings

end CssColor
