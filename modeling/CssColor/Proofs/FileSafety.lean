import CssColor.Proofs.Overwriting
import CssColor.Proofs.Preparation
import CssColor.Proofs.Rewriting

/-!
# Files through a run

A run goes through its files in order and stops at the first that cannot be read
or written. Where the files are distinct, each fares as if it were the only one.

- `fate`: how a file fares in a session, taken on its own; `Handled` and `Breaks`
  say the same in words.
- `convertFile_spec`: one file's step has that fate, and changes what the fate
  says.
- `Stepped.fate`: **a step does not change how other files fare**.
- `Passed`, `convertFiles_passed`: what a run over files has done, by induction on
  the files.
- `run_passed`: **a run leaves every file as it was but those that it has converted
  in place**, prints the texts of those that it has not, and ends by the first
  that cannot be read or written.
- `exists_run_without_lines`: an accepted run that reads its file and has no exit
  code all the same.
-/

namespace CssColor

variable {a : Arguments} {o : Options} {s s' : Session} {name other : Text} {r : Result}

/-- The text of a file, or why it is not read. -/
def Session.sourceText (s : Session) (name : Text) : Except (Failure FileError) Text :=
  (s.readSource name).map Prod.fst

/-- How a file fares in a session: the result of its conversion, or how it ends the run. -/
def fate (a : Arguments) (o : Options) (s : Session) (name : Text) : Except Ending Result :=
  match s.sourceText name with
  | .error (.fault f) => .error (.fault f)
  | .error (.told _) => .error (.exit exitRefused)
  | .ok t =>
    if a.lines = .blank then .error (.fault .blankLines)
    else
      let r := convertLines o a.lines.value? t
      if (a.inPlace && r.changed) = true ∧ (s.disk.overwrite name r.output.utf8).isOk = false then
        .error (.exit exitRefused)
      else .ok r

/-- A file is handled: it is read, all of it, and converted, which copies all that is not in its
tokens; and it can be written if that is asked for. -/
structure Handled (a : Arguments) (o : Options) (s : Session) (name : Text) (t : Text) (r : Result) :
    Prop where
  source : s.sourceText name = .ok t
  bytes : name ≠ inputName → s.disk.read name = .ok t.utf8
  lines : a.lines ≠ .blank
  result : r = convertLines o a.lines.value? t
  rewritten : Rewritten (convertToken o) t r.output
  writable : a.inPlace = true → r.changed = true →
    (s.disk.overwrite name r.output.utf8).isOk = true

/-- A file breaks a run off: it cannot be read or written, which refuses the run; or it has no text,
or there are no lines to select from it, which is a fault. -/
inductive Breaks (a : Arguments) (o : Options) (s : Session) (name : Text) : Ending → Prop where
  | unreadable {e : FileError} (h : s.sourceText name = .error (.told e)) :
    Breaks a o s name (.exit exitRefused)
  | unwritable {t : Text} (h : s.sourceText name = .ok t) (hlines : a.lines ≠ .blank)
    (hplace : a.inPlace = true) (hchanged : (convertLines o a.lines.value? t).changed = true)
    (hwrite : (s.disk.overwrite name (convertLines o a.lines.value? t).output.utf8).isOk = false) :
    Breaks a o s name (.exit exitRefused)
  | noText {f : Fault} (hname : name ≠ inputName) (h : s.disk.NoText name f) :
    Breaks a o s name (.fault f)
  | noLines {t : Text} (h : s.sourceText name = .ok t) (hlines : a.lines = .blank) :
    Breaks a o s name (.fault .blankLines)

/-- Two names stand for distinct files; the standard input is none of those on the disk. -/
def Distinct (d : Disk) (name other : Text) : Prop :=
  name ≠ other ∧ (name ≠ inputName → other ≠ inputName →
    ∀ place, d.locate name = .ok place → d.locate other ≠ .ok place)

/-- Two files of a run have nothing to do with each other: their names differ, and where files are
converted in place, so do their places. -/
def Apart (a : Arguments) (d : Disk) (name other : Text) : Prop :=
  name ≠ other ∧
    (a.inPlace = true → ∀ place, d.locate name = .ok place → d.locate other ≠ .ok place)

/-- What is read from a file under a name of its own are all its bytes. -/
theorem sourceText_eq (hname : name ≠ inputName) :
    s.sourceText name = s.disk.readText name := by
  rw [Session.sourceText, Session.readSource, if_neg hname]
  cases s.disk.readText name <;> rfl

theorem sourceText_eq_fault_iff {f : Fault} :
    s.sourceText name = .error (.fault f) ↔ name ≠ inputName ∧ s.disk.NoText name f := by
  by_cases hname : name = inputName
  · refine iff_of_false ?_ fun h => h.1 hname
    rw [Session.sourceText, Session.readSource, if_pos hname]
    cases s.disk.unreadable.lookup inputName <;> exact nofun
  · rw [sourceText_eq hname, Disk.readText_eq_fault_iff, and_iff_right hname]

/-- The conversion of some lines of a text copies all that is not in its tokens. -/
theorem rewritten_convertLines (o : Options) (lines : Option LineRange) (t : Text) :
    Rewritten (convertToken o) t (convertLines o lines t).output := by
  cases lines with
  | none => exact rewritten_convertWith _ t
  | some range =>
    rw [convertLines, ColorLibrary.convertLines]
    dsimp only
    split
    · exact .refl _ t
    · exact rewritten_convertRegion o t _ _

theorem fate_eq_ok_iff : fate a o s name = .ok r ↔ ∃ t, Handled a o s name t r := by
  rw [fate]
  cases hsource : s.sourceText name with
  | error failure =>
    have hnone : ¬ ∃ t, Handled a o s name t r := by
      rintro ⟨t, h⟩
      have hok := h.source
      rw [hsource] at hok
      cases hok
    cases failure <;> exact iff_of_false (fun h => by cases h) hnone
  | ok t =>
    have hbytes : name ≠ inputName → s.disk.read name = .ok t.utf8 := by
      intro hname
      rw [sourceText_eq hname] at hsource
      exact (Disk.readText_eq_ok_iff.mp hsource).2
    dsimp only
    by_cases hlines : a.lines = .blank
    · rw [if_pos hlines]
      exact iff_of_false (fun h => by cases h) fun ⟨_, h⟩ => h.lines hlines
    · rw [if_neg hlines]
      constructor
      · intro h
        split at h
        · cases h
        · rename_i hnot
          cases h
          refine ⟨t, hsource, hbytes, hlines, rfl, rewritten_convertLines o _ t,
            fun hplace hchanged => ?_⟩
          rw [← Bool.not_eq_false]
          exact fun hfails => hnot ⟨by rw [hplace, hchanged]; rfl, hfails⟩
      · rintro ⟨t', h⟩
        have hsame := h.source
        rw [hsource] at hsame
        cases hsame
        rw [← h.result, if_neg]
        rintro ⟨hwrite, hfails⟩
        obtain ⟨hplace, hchanged⟩ := Bool.and_eq_true_iff.mp hwrite
        rw [h.writable hplace hchanged] at hfails
        cases hfails

theorem fate_eq_error_iff {e : Ending} : fate a o s name = .error e ↔ Breaks a o s name e := by
  rw [fate]
  constructor
  · intro h
    cases hsource : s.sourceText name with
    | error failure =>
      rw [hsource] at h
      cases failure with
      | fault f =>
        cases h
        obtain ⟨hname, hnone⟩ := sourceText_eq_fault_iff.mp hsource
        exact .noText hname hnone
      | told e =>
        cases h
        exact .unreadable hsource
    | ok t =>
      rw [hsource] at h
      dsimp only at h
      split at h
      · rename_i hlines
        cases h
        exact .noLines hsource hlines
      · rename_i hlines
        split at h
        · rename_i hwrite
          cases h
          obtain ⟨hplace, hchanged⟩ := Bool.and_eq_true_iff.mp hwrite.1
          exact .unwritable hsource hlines hplace hchanged hwrite.2
        · cases h
  · intro h
    cases h with
    | unreadable h => rw [h]
    | noText hname h => rw [sourceText_eq_fault_iff.mpr ⟨hname, h⟩]
    | noLines h hlines =>
      rw [h]
      exact if_pos hlines
    | unwritable h hlines hplace hchanged hwrite =>
      rw [h]
      dsimp only
      rw [if_neg hlines, if_pos ⟨by rw [hplace, hchanged]; rfl, hwrite⟩]

/-! ## One file -/

/-- What a file that is handled changes. -/
structure Stepped (a : Arguments) (name : Text) (r : Result) (s s' : Session) : Prop where
  input : name ≠ inputName → s'.input = s.input
  stdout : s'.stdout = s.stdout ++ if a.inPlace then [] else r.output
  kept : (a.inPlace && r.changed) = false → s'.disk = s.disk
  written : (a.inPlace && r.changed) = true → s.disk.overwrite name r.output.utf8 = .ok s'.disk

/-- Reading changes nothing but the standard input, which is used up. -/
theorem readSource_ok {t : Text} (h : s.readSource name = .ok (t, s')) :
    s'.stdout = s.stdout ∧ s'.disk = s.disk ∧ (name ≠ inputName → s'.input = s.input) := by
  rw [Session.readSource] at h
  split at h
  · rename_i hname
    split at h
    · cases h
    · cases h
      exact ⟨rfl, rfl, fun hne => absurd hname hne⟩
  · cases hread : s.disk.readText name with
    | error e =>
      rw [hread] at h
      cases h
    | ok t' =>
      rw [hread] at h
      cases h
      exact ⟨rfl, rfl, fun _ => rfl⟩

/-- A text that is read is converted, and the result delivered. -/
theorem convertFile_of_text {t : Text} {s₁ : Session} (hread : s.readSource name = .ok (t, s₁))
    (hlines : a.lines ≠ .blank) :
    ∃ s₂, s₁.OnlyTold s₂ ∧
      convertFile a o name s = deliver a name (convertLines o a.lines.value? t) s₂ := by
  rw [convertFile, hread]
  dsimp only
  rw [if_neg hlines]
  exact ⟨_, (s₁.onlyTold_logAttempts a o _).trans (Session.onlyTold_logResult _ _ _ _), rfl⟩

/-- A result is refused if it is to be written and cannot be; else it is delivered. -/
theorem deliver_spec (a : Arguments) (name : Text) (r : Result) (s : Session) :
    ((a.inPlace && r.changed) = true ∧ (s.disk.overwrite name r.output.utf8).isOk = false ∧
      ∃ s', deliver a name r s = .error ⟨.exit exitRefused, s'⟩ ∧ s.OnlyTold s') ∨
    ¬ ((a.inPlace && r.changed) = true ∧ (s.disk.overwrite name r.output.utf8).isOk = false) ∧
      ∃ s', deliver a name r s = .ok (s', r) ∧ Stepped a name r s s' := by
  rw [deliver]
  cases hplace : a.inPlace with
  | false =>
    -- the result is printed
    have htold := (s.print r.output).onlyTold_tellReport a r
    refine Or.inr ⟨fun h => Bool.false_ne_true h.1, _, rfl, fun _ => htold.input, ?_,
      fun _ => htold.disk, fun h => ?_⟩
    · rw [hplace]
      exact htold.stdout
    · rw [hplace] at h
      cases h
  | true =>
    cases hchanged : r.changed with
    | false =>
      -- there is nothing to write
      have htold := s.onlyTold_tellReport a r
      refine Or.inr ⟨fun h => Bool.false_ne_true h.1, _, rfl, fun _ => htold.input, ?_,
        fun _ => htold.disk, fun h => ?_⟩
      · rw [hplace, if_pos rfl, List.append_nil]
        exact htold.stdout
      · rw [hchanged, Bool.and_false] at h
        cases h
    | true =>
      cases hover : s.disk.overwrite name r.output.utf8 with
      | error e => exact Or.inl ⟨rfl, rfl, _, rfl, s.onlyTold_log _ _ _⟩
      | ok disk =>
        have htold := Session.onlyTold_tellReport { s with disk } a r
        refine Or.inr ⟨fun h => Bool.false_ne_true h.2.symm, _, rfl, fun _ => htold.input, ?_,
          fun h => ?_, fun _ => ?_⟩
        · rw [hplace, if_pos rfl, List.append_nil]
          exact htold.stdout
        · rw [hplace, hchanged] at h
          cases h
        · rw [hover, htold.disk]

/-- **A file's step has the fate of the file**: it ends the run and leaves all as it was, or it
changes what the fate says. -/
theorem convertFile_spec (a : Arguments) (o : Options) (name : Text) (s : Session) :
    (∃ out, fate a o s name = .error out.ending ∧ convertFile a o name s = .error out ∧
      out.session.stdout = s.stdout ∧ out.session.disk = s.disk) ∨
    ∃ r s', fate a o s name = .ok r ∧ convertFile a o name s = .ok (s', r) ∧
      Stepped a name r s s' := by
  rw [fate, Session.sourceText]
  cases hread : s.readSource name with
  | error failure =>
    rw [convertFile, hread]
    cases failure with
    | fault f => exact Or.inl ⟨_, rfl, rfl, rfl, rfl⟩
    | told e =>
      have htold := s.onlyTold_log a.leastLevel .error
        ("Cannot read ".toList ++ name ++ ": ".toList ++ e.message name)
      exact Or.inl ⟨_, rfl, rfl, htold.stdout, htold.disk⟩
  | ok read =>
    obtain ⟨t, s₁⟩ := read
    obtain ⟨hstdout, hdisk, hinput⟩ := readSource_ok hread
    dsimp only [Except.map]
    by_cases hlines : a.lines = .blank
    · rw [convertFile, hread]
      dsimp only
      rw [if_pos hlines, if_pos hlines]
      exact Or.inl ⟨_, rfl, rfl, hstdout, hdisk⟩
    · obtain ⟨s₂, htold, hconvert⟩ := convertFile_of_text (o := o) hread hlines
      have hdisk₂ := htold.disk.trans hdisk
      rw [if_neg hlines, hconvert, ← hdisk₂]
      generalize convertLines o a.lines.value? t = r
      rcases deliver_spec a name r s₂ with ⟨hwrite, hfails, s', heq, htold'⟩ | ⟨hdone, s', heq, hstep⟩
      · rw [if_pos ⟨hwrite, hfails⟩]
        refine Or.inl ⟨_, rfl, heq, ?_, htold'.disk⟩
        rw [htold'.stdout, htold.stdout, hstdout]
      · rw [if_neg hdone]
        refine Or.inr ⟨r, s', rfl, heq, ?_, ?_, ?_, ?_⟩
        · intro hname
          rw [hstep.input hname, htold.input, hinput hname]
        · rw [hstep.stdout, htold.stdout, hstdout]
        · intro hkept
          rw [hstep.kept hkept, hdisk₂]
        · intro hwritten
          rw [← hdisk₂]
          exact hstep.written hwritten

/-! ## Other files -/

/-- Distinct files are apart in a run that does not convert the standard input in place. -/
theorem pairwise_apart {d : Disk} {files : List Text} (h : files.Pairwise (Distinct d))
    (hnamed : a.inPlace = true → inputName ∉ files) : files.Pairwise (Apart a d) := by
  refine h.imp_of_mem fun hname hother hdistinct => ⟨hdistinct.1, fun hplace => ?_⟩
  have hfree : ∀ n ∈ files, n ≠ inputName := by
    rintro n hn rfl
    exact hnamed hplace hn
  exact hdistinct.2 (hfree _ hname) (hfree _ hother)

/-- Files stay apart while names lead where they led. -/
theorem Apart.congr {d d' : Disk} (hlocate : ∀ n, d'.locate n = d.locate n)
    (h : Apart a d name other) : Apart a d' name other := by
  refine ⟨h.1, fun hplace place => ?_⟩
  rw [hlocate, hlocate]
  exact h.2 hplace place

theorem Stepped.locate (h : Stepped a name r s s') (n : Text) :
    s'.disk.locate n = s.disk.locate n := by
  cases hwrite : a.inPlace && r.changed with
  | false => rw [h.kept hwrite]
  | true =>
    obtain ⟨place, -, hover⟩ := Disk.overwritten_of_overwrite (h.written hwrite)
    exact hover.locate n

theorem Stepped.sourceText (h : Stepped a name r s s') (hapart : Apart a s.disk name other) :
    s'.sourceText other = s.sourceText other := by
  rw [Session.sourceText, Session.sourceText, Session.readSource, Session.readSource]
  by_cases hother : other = inputName
  · -- the standard input is left to the file that names it
    have hinput : s'.input = s.input := h.input (hother ▸ hapart.1)
    have hunreadable : s'.disk.unreadable = s.disk.unreadable := by
      cases hwrite : a.inPlace && r.changed with
      | false => rw [h.kept hwrite]
      | true =>
        obtain ⟨place, -, hover⟩ := Disk.overwritten_of_overwrite (h.written hwrite)
        exact hover.unreadable
    rw [if_pos hother, if_pos hother, hinput, hunreadable]
    cases s.disk.unreadable.lookup inputName <;> rfl
  · have hread : s'.disk.readText other = s.disk.readText other := by
      cases hwrite : a.inPlace && r.changed with
      | false => rw [h.kept hwrite]
      | true =>
        obtain ⟨place, hlocate, hover⟩ := Disk.overwritten_of_overwrite (h.written hwrite)
        exact hover.readText (hapart.2 (Bool.and_eq_true_iff.mp hwrite).1 place hlocate)
    rw [if_neg hother, if_neg hother, hread]
    cases s.disk.readText other <;> rfl

theorem Stepped.overwrite_isOk (h : Stepped a name r s s')
    (hapart : Apart a s.disk name other) (bytes : List UInt8) :
    (s'.disk.overwrite other bytes).isOk = (s.disk.overwrite other bytes).isOk := by
  cases hwrite : a.inPlace && r.changed with
  | false => rw [h.kept hwrite]
  | true =>
    obtain ⟨place, hlocate, hover⟩ := Disk.overwritten_of_overwrite (h.written hwrite)
    exact hover.overwrite_isOk (hapart.2 (Bool.and_eq_true_iff.mp hwrite).1 place hlocate) bytes

/-- **A step does not change how other files fare.** -/
theorem Stepped.fate (h : Stepped a name r s s') (hapart : Apart a s.disk name other) :
    CssColor.fate a o s' other = CssColor.fate a o s other := by
  rw [CssColor.fate, CssColor.fate, h.sourceText hapart]
  simp only [h.overwrite_isOk hapart]

/-- A step puts the result where the name leads, if it is to be written. -/
theorem Stepped.find?_written (h : Stepped a name r s s') (hplace : a.inPlace = true)
    (hchanged : r.changed = true) {place : Location} (hlocate : s.disk.locate name = .ok place) :
    s'.disk.find? place = some (.file r.output.utf8) := by
  obtain ⟨here, hhere, hover⟩ :=
    Disk.overwritten_of_overwrite (h.written (by rw [hplace, hchanged]; rfl))
  rw [hlocate] at hhere
  cases hhere
  rw [hover.now, if_pos rfl]

/-- A step changes what stands there, and nothing else. -/
theorem Stepped.find?_other (h : Stepped a name r s s') {place : Location}
    (hother : ¬ (a.inPlace = true ∧ r.changed = true ∧ s.disk.locate name = .ok place)) :
    s'.disk.find? place = s.disk.find? place := by
  cases hwrite : a.inPlace && r.changed with
  | false => rw [h.kept hwrite]
  | true =>
    obtain ⟨here, hhere, hover⟩ := Disk.overwritten_of_overwrite (h.written hwrite)
    rw [hover.now, if_neg]
    rintro rfl
    obtain ⟨hplace, hchanged⟩ := Bool.and_eq_true_iff.mp hwrite
    exact hother ⟨hplace, hchanged, hhere⟩

/-! ## All files -/

/-- A file that is handled is written, at a place where its name leads. -/
def Writes (a : Arguments) (d : Disk) (done : List (Text × Result)) (place : Location)
    (r : Result) : Prop :=
  a.inPlace = true ∧ r.changed = true ∧ ∃ name, (name, r) ∈ done ∧ d.locate name = .ok place

/-- The end of a run over files: an exit code that tells of failed colours, or the end that the
first file brings that fails. -/
def EndsAs (a : Arguments) (o : Options) (s : Session) (code : Nat) (done : List (Text × Result))
    (rest : List Text) (e : Ending) : Prop :=
  match rest with
  | [] => e = .exit (if done.any fun p => p.2.hasErrors then exitColorErrors else code)
  | name :: _ => Breaks a o s name e

/-- What a run over files has done: it has handled some of them, and left the rest. -/
structure Passed (a : Arguments) (o : Options) (s : Session) (files : List Text) (code : Nat)
    (out : Outcome) (done : List (Text × Result)) (rest : List Text) : Prop where
  files_eq : files = done.map Prod.fst ++ rest
  handled : ∀ name r, (name, r) ∈ done → ∃ t, Handled a o s name t r
  ending : EndsAs a o s code done rest out.ending
  stdout : out.session.stdout =
    s.stdout ++ if a.inPlace then [] else done.flatMap fun p => p.2.output
  kept : a.inPlace = false → out.session.disk = s.disk
  written : ∀ place r, Writes a s.disk done place r →
    out.session.disk.find? place = some (.file r.output.utf8)
  untouched : ∀ place, (∀ r, ¬ Writes a s.disk done place r) →
    out.session.disk.find? place = s.disk.find? place

/-- A run over files that ends at the first of them. -/
theorem Passed.of_error {files : List Text} {code : Nat} {out : Outcome}
    (hfate : fate a o s name = .error out.ending) (hstdout : out.session.stdout = s.stdout)
    (hdisk : out.session.disk = s.disk) : Passed a o s (name :: files) code out [] (name :: files) where
  files_eq := rfl
  handled := fun _ _ h => absurd h List.not_mem_nil
  ending := fate_eq_error_iff.mp hfate
  stdout := by
    rw [hstdout]
    split <;> simp
  kept := fun _ => hdisk
  written := by
    rintro place r ⟨-, -, name, h, -⟩
    exact absurd h List.not_mem_nil
  untouched := fun place _ => by rw [hdisk]

/-- A run over files whose first is handled goes on as a run over the others. -/
theorem Passed.cons {files rest : List Text} {code : Nat} {out : Outcome}
    {done : List (Text × Result)} (hfate : fate a o s name = .ok r)
    (hstep : Stepped a name r s s') (hapart : ∀ n ∈ files, Apart a s.disk name n)
    (h : Passed a o s' files (if r.hasErrors then exitColorErrors else code) out done rest) :
    Passed a o s (name :: files) code out ((name, r) :: done) rest := by
  have hrest : ∀ n ∈ rest, n ∈ files := by
    intro n hn
    rw [h.files_eq]
    exact List.mem_append_right _ hn
  have hdone : ∀ {n : Text} {r' : Result}, (n, r') ∈ done → n ∈ files := by
    intro n r' hn
    rw [h.files_eq]
    exact List.mem_append_left _ (List.mem_map.mpr ⟨_, hn, rfl⟩)
  constructor
  case files_eq => rw [h.files_eq, List.map_cons, List.cons_append]
  case handled =>
    intro n r' hn
    rcases List.mem_cons.mp hn with heq | hn
    · cases heq
      exact fate_eq_ok_iff.mp hfate
    · rw [← fate_eq_ok_iff, ← hstep.fate (hapart n (hdone hn)), fate_eq_ok_iff]
      exact h.handled n r' hn
  case ending =>
    have hending := h.ending
    cases rest with
    | nil =>
      rw [EndsAs] at hending ⊢
      rw [hending, List.any_cons]
      cases r.hasErrors <;> cases done.any (fun p => p.2.hasErrors) <;> rfl
    | cons n more =>
      rw [EndsAs] at hending ⊢
      rw [← fate_eq_error_iff, ← hstep.fate (hapart n (hrest n List.mem_cons_self)),
        fate_eq_error_iff]
      exact hending
  case stdout =>
    rw [h.stdout, hstep.stdout]
    split <;> simp
  case kept =>
    intro hplace
    rw [h.kept hplace, hstep.kept (by rw [hplace]; rfl)]
  case written =>
    rintro place r' ⟨hplace, hchanged, n, hn, hlocate⟩
    rcases List.mem_cons.mp hn with heq | hn
    · cases heq
      -- no other file is at that place
      rw [h.untouched place ?_, hstep.find?_written hplace hchanged hlocate]
      rintro r' ⟨-, -, n, hn, hlocate'⟩
      rw [hstep.locate] at hlocate'
      exact (hapart n (hdone hn)).2 hplace place hlocate hlocate'
    · exact h.written place r' ⟨hplace, hchanged, n, hn, by rw [hstep.locate, hlocate]⟩
  case untouched =>
    intro place hnone
    rw [h.untouched place ?_, hstep.find?_other]
    · rintro ⟨hplace, hchanged, hlocate⟩
      exact hnone r ⟨hplace, hchanged, name, List.mem_cons_self, hlocate⟩
    · rintro r' ⟨hplace, hchanged, n, hn, hlocate⟩
      rw [hstep.locate] at hlocate
      exact hnone r' ⟨hplace, hchanged, n, List.mem_cons_of_mem _ hn, hlocate⟩

/-- **Induction over the files**: each step leaves the fate of the files behind it. -/
theorem convertFiles_passed (a : Arguments) (o : Options) (files : List Text) (code : Nat)
    (s : Session) (hapart : files.Pairwise (Apart a s.disk)) :
    ∃ done rest, Passed a o s files code (convertFiles a o files code s) done rest := by
  induction files generalizing code s with
  | nil =>
    refine ⟨[], [], rfl, fun _ _ h => absurd h List.not_mem_nil, rfl, ?_, fun _ => rfl, ?_,
      fun _ _ => rfl⟩
    · rw [convertFiles]
      split <;> simp
    · rintro place r ⟨-, -, name, h, -⟩
      exact absurd h List.not_mem_nil
  | cons name files ih =>
    obtain ⟨hname, hfiles⟩ := List.pairwise_cons.mp hapart
    rw [convertFiles]
    rcases convertFile_spec a o name s with ⟨out, hfate, hstep, hstdout, hdisk⟩ |
      ⟨r, s', hfate, hstep, hstepped⟩
    · rw [hstep]
      exact ⟨[], name :: files, .of_error hfate hstdout hdisk⟩
    · rw [hstep]
      have hapart' : files.Pairwise (Apart a s'.disk) :=
        hfiles.imp fun h => h.congr hstepped.locate
      obtain ⟨done, rest, hpassed⟩ := ih (if r.hasErrors then exitColorErrors else code) s' hapart'
      exact ⟨(name, r) :: done, rest, hpassed.cons hfate hstepped hname⟩

/-! ## Whole runs -/

/-- **A run leaves every file as it was but those that it has converted in place.** What it brings
to its files is the disk as it was and nothing printed; from there on each file before the first
that fails is handled, and the others are left. -/
theorem run_passed {argv : List Text} {s : Session} {b : Arrival} (h : arrive argv s = .ok b)
    (hdistinct : b.files.Pairwise (Distinct s.disk)) :
    Arrived argv s b ∧ ∃ done rest,
      Passed b.arguments b.options b.session b.files exitOk (run argv s) done rest := by
  have harrived := arrive_ok h
  rw [← harrived.disk] at hdistinct
  rw [run_eq_arrive, h]
  exact ⟨harrived, convertFiles_passed _ _ _ _ _ (pairwise_apart hdistinct harrived.named)⟩

/-- A disk with a file named `a.css`, and no other. -/
def oneFile (t : Text) : Disk where
  entries := [(["a.css".toList], .file t.utf8)]

theorem readText_oneFile (t : Text) : (oneFile t).readText "a.css".toList = .ok t :=
  Disk.readText_eq_ok_iff.mpr ⟨by decide, rfl⟩

/-- What a run without settings brings to the files that it names. -/
def Arrival.ofDisk (a : Arguments) (d : Disk) : Arrival where
  arguments := a
  options := {}
  files := a.files
  session := { disk := d }

/-- What a run brings to a file that is there and to one that is not. -/
def secondMissing : Arrival :=
  .ofDisk { files := ["a.css".toList, "b.css".toList], inPlace := true }
    (oneFile "a{color:red;}".toList)

/-- The first file is there, and the second is not: no place is that of both. -/
theorem run_passed_secondMissing :
    arrive ["-i".toList, "a.css".toList, "b.css".toList] secondMissing.session = .ok secondMissing ∧
    secondMissing.files.Pairwise (Distinct secondMissing.session.disk) ∧
    Arrived ["-i".toList, "a.css".toList, "b.css".toList] secondMissing.session secondMissing ∧
      ∃ done rest, Passed secondMissing.arguments secondMissing.options secondMissing.session
        secondMissing.files exitOk
        (run ["-i".toList, "a.css".toList, "b.css".toList] secondMissing.session) done rest := by
  have harrive : arrive ["-i".toList, "a.css".toList, "b.css".toList] secondMissing.session =
      .ok secondMissing := arrive_of_toOption (by decide +kernel)
  have hmissing : secondMissing.session.disk.locate "b.css".toList = .error .notFound := rfl
  have hdistinct : secondMissing.files.Pairwise (Distinct secondMissing.session.disk) := by
    refine List.pairwise_pair.mpr ⟨by decide, fun _ _ place _ hplace => ?_⟩
    rw [hmissing] at hplace
    cases hplace
  exact ⟨harrive, hdistinct, run_passed harrive hdistinct⟩

/-- What a run brings to its file whose switch for lines is given, and has no value. -/
def withoutLines : Arrival :=
  .ofDisk { files := ["a.css".toList], lines := .blank } (oneFile "a {}\n".toList)

/-- The lines to convert are not looked for until there is a text: **a run can come to a file, read
it, and end without an exit code**. -/
theorem exists_run_without_lines :
    arrive ["--lines=--".toList, "a.css".toList] withoutLines.session = .ok withoutLines ∧
    withoutLines.session.disk.readText "a.css".toList = .ok "a {}\n".toList ∧
      ∀ code, (run ["--lines=--".toList, "a.css".toList] withoutLines.session).ending ≠
        .exit code := by
  have harrive : arrive ["--lines=--".toList, "a.css".toList] withoutLines.session =
      .ok withoutLines := arrive_of_toOption (by decide +kernel)
  have hread : withoutLines.session.readSource "a.css".toList =
      .ok ("a {}\n".toList, withoutLines.session) := by
    rw [Session.readSource, if_neg (by decide), withoutLines, Arrival.ofDisk, readText_oneFile]
    rfl
  refine ⟨harrive, readText_oneFile _, fun code hcode => ?_⟩
  have hrun : run ["--lines=--".toList, "a.css".toList] withoutLines.session =
      convertFiles withoutLines.arguments withoutLines.options ["a.css".toList] exitOk
        withoutLines.session := by
    rw [run_eq_arrive, harrive]
    rfl
  rw [hrun, convertFiles, convertFile, hread] at hcode
  cases hcode

end CssColor
