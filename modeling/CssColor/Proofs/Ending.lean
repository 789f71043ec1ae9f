import CssColor.Proofs.FileSafety
import CssColor.Proofs.SettingsFaults
import CssColor.Proofs.WholeNumber

/-!
# How runs end

A run ends with one of three exit codes, or by a fault. The faults are few, and
each comes from something that is neither checked nor told.

- `Ending.IsExit`: an ending with an exit code.
- `SettingsFault`, `AnswerFaults`, `Reaches`: what can go wrong with the settings,
  with the answer to the question for a target, and on the way through the files.
- `Escapes`: **all that makes a run end without an exit code**.
- `run_ending`: a run ends by a fault just if one of these things happens, and has
  an exit code if none does.
- `exists_run_without_text`: a file that is no text is one of them.
-/

namespace CssColor

variable {argv : List Text} {a : Arguments} {o : Options} {s s' : Session} {f : Fault}

/-- A run ends with one of its exit codes. -/
inductive Ending.IsExit : Ending → Prop where
  | ok : IsExit (.exit exitOk)
  | colorErrors : IsExit (.exit exitColorErrors)
  | refused : IsExit (.exit exitRefused)

theorem Ending.IsExit.ne_fault {e : Ending} (h : e.IsExit) (f : Fault) : e ≠ .fault f := by
  rintro rfl
  cases h

/-! ## Settings -/

/-- Arguments lead to no settings, and nothing is told: the switch for the settings file has no
value, or the file is one of those that end the run. -/
inductive SettingsFault (a : Arguments) (s : Session) : Fault → Prop where
  | noFileName (h : a.config = .blank) : SettingsFault a s (.noFileName "list".toList)
  | file {name : Text} {f : Fault} (h : a.config ≠ .blank)
    (hname : Settings.source? a.config.value? s.disk = some name)
    (hf : Settings.FileFaults s.depths name s.disk f) : SettingsFault a s f

theorem SettingsFault.loadSettings (h : SettingsFault a s f) :
    loadSettings a s = .error ⟨.fault f, s⟩ := by
  rw [CssColor.loadSettings]
  cases h with
  | noFileName h =>
    rw [if_pos h]
    rfl
  | file h hname hf =>
    rw [if_neg h, Settings.load_eq_fault_iff.mpr ⟨_, hname, hf⟩]

/-- Settings that are not there are told, or are a fault. -/
theorem loadSettings_ending {out : Outcome} (h : loadSettings a s = .error out) :
    out.ending.IsExit ∨ ∃ f, out.ending = .fault f ∧ SettingsFault a s f := by
  rw [loadSettings] at h
  split at h
  · rename_i hblank
    cases h
    exact Or.inr ⟨_, rfl, .noFileName hblank⟩
  · rename_i hgiven
    split at h
    · rename_i hload
      obtain ⟨name, hname, hf⟩ := Settings.load_eq_fault_iff.mp hload
      cases h
      exact Or.inr ⟨_, rfl, .file hgiven hname hf⟩
    · cases h
      exact Or.inl .refused
    · cases h
    · cases h

/-! ## Answers -/

/-- An answer in digits is no number: one of them has a special form, or they are too many. -/
structure AnswerFaults (answer : Text) : Prop where
  ne_nil : answer ≠ []
  digits : ∀ c ∈ answer, isDigitLike c = true
  noNumber : (∃ c ∈ answer, isDecimalDigit c = false) ∨ maxIntegerDigits < answer.length

/-- An answer chooses a target, or none, unless its digits are no number. -/
theorem targetAnswer_eq_error_iff {current : Target} {line : Text} :
    targetAnswer current line = .error f ↔
      AnswerFaults line.trim ∧ ∃ e, line.trim.integer = .error e ∧ f = .integer e := by
  rw [targetAnswer]
  by_cases hempty : line.trim.isEmpty = true
  · rw [if_pos hempty]
    exact iff_of_false (fun h => by cases h) fun h => h.1.ne_nil (List.isEmpty_iff.mp hempty)
  · have hne : line.trim ≠ [] := fun h => hempty (List.isEmpty_iff.mpr h)
    rw [if_neg hempty]
    by_cases hdigits : line.trim.all isDigitLike = true
    · have hall := List.all_eq_true.mp hdigits
      rw [if_pos hdigits]
      constructor
      · intro h
        split at h
        · cases h
        · rename_i e he
          cases h
          exact ⟨⟨hne, hall, (Text.integer_eq_error_iff hne hall).mp ⟨e, he⟩⟩, e, he, rfl⟩
      · rintro ⟨-, e, he, rfl⟩
        rw [he]
    · rw [if_neg hdigits]
      refine iff_of_false ?_ fun h => hdigits (List.all_eq_true.mpr h.1.digits)
      split <;> exact nofun

/-! ## Files -/

/-- A run over files comes to one of them: those before it are handled. -/
inductive Reaches (a : Arguments) (o : Options) : List Text → Session → Text → Session → Prop where
  | first {name : Text} {rest : List Text} {s : Session} : Reaches a o (name :: rest) s name s
  | later {name other : Text} {rest : List Text} {s s' s'' : Session} {r : Result}
    (h : convertFile a o name s = .ok (s', r)) (hrest : Reaches a o rest s' other s'') :
    Reaches a o (name :: rest) s other s''

theorem convertFiles_fault_iff {files : List Text} {code : Nat} :
    (convertFiles a o files code s).ending = .fault f ↔
      ∃ name s', Reaches a o files s name s' ∧ Breaks a o s' name (.fault f) := by
  induction files generalizing code s with
  | nil =>
    refine iff_of_false (fun h => by cases h) ?_
    rintro ⟨name, s', h, -⟩
    cases h
  | cons name files ih =>
    rw [convertFiles]
    rcases convertFile_spec a o name s with ⟨out, hfate, hstep, -, -⟩ | ⟨r, s', hfate, hstep, -⟩
    · rw [hstep]
      constructor
      · intro h
        rw [← show out.ending = .fault f from h]
        exact ⟨name, s, .first, fate_eq_error_iff.mp hfate⟩
      · rintro ⟨other, s'', hreach, hbreaks⟩
        cases hreach with
        | first =>
          rw [← fate_eq_error_iff, hfate] at hbreaks
          exact Except.error.inj hbreaks
        | later h _ =>
          rw [hstep] at h
          cases h
    · rw [hstep]
      dsimp only
      rw [ih]
      constructor
      · rintro ⟨other, s'', hreach, hbreaks⟩
        exact ⟨other, s'', .later hstep hreach, hbreaks⟩
      · rintro ⟨other, s'', hreach, hbreaks⟩
        cases hreach with
        | first =>
          rw [← fate_eq_error_iff, hfate] at hbreaks
          cases hbreaks
        | later h hrest =>
          rw [hstep] at h
          cases h
          exact ⟨other, s'', hrest, hbreaks⟩

/-- A file that breaks a run off refuses it, or is a fault. -/
theorem Breaks.ending {name : Text} {e : Ending} (h : Breaks a o s name e) :
    e.IsExit ∨ ∃ f, e = .fault f := by
  cases h with
  | unreadable _ => exact Or.inl .refused
  | unwritable _ _ _ _ _ => exact Or.inl .refused
  | noText _ _ => exact Or.inr ⟨_, rfl⟩
  | noLines _ _ => exact Or.inr ⟨_, rfl⟩

theorem convertFiles_ending {files : List Text} {code : Nat} (hcode : (Ending.exit code).IsExit) :
    (convertFiles a o files code s).ending.IsExit ∨
      ∃ f, (convertFiles a o files code s).ending = .fault f := by
  induction files generalizing code s with
  | nil => exact Or.inl hcode
  | cons name files ih =>
    rw [convertFiles]
    rcases convertFile_spec a o name s with ⟨out, hfate, hstep, -, -⟩ | ⟨r, s', -, hstep, -⟩
    · rw [hstep]
      exact (fate_eq_error_iff.mp hfate).ending
    · rw [hstep]
      refine ih ?_
      split
      · exact .colorErrors
      · exact hcode

/-! ## Whole runs -/

/-- A run is asked nothing, or is answered with a target. -/
inductive Prepared.Settles : Prepared → Plan → Prop where
  | ready (p : Plan) (s : Session) : Settles (.ready p s) p
  | asking {p : Plan} {s : Session} {target : Target}
    (h : targetAnswer p.settings.target (splitLine s.input).1 = .ok (some target)) :
    Settles (.asking p s) p

/-- All that makes a run end without an exit code. -/
inductive Escapes (argv : List Text) (s : Session) : Fault → Prop where
  /-- The settings are at fault. -/
  | settings {a : Arguments} {f : Fault} (hparse : Arguments.parse argv = .ok a)
    (h : SettingsFault a s f) : Escapes argv s f
  /-- The answer to the question for a target is. -/
  | answer {p : Plan} {s' : Session} {e : IntegerError} (hprepare : prepare argv s = .asking p s')
    (h : AnswerFaults (splitLine s'.input).1.trim)
    (he : (splitLine s'.input).1.trim.integer = .error e) : Escapes argv s (.integer e)
  /-- The switch for the precision has no value. -/
  | precision {p : Plan} (hprepare : (prepare argv s).Settles p)
    (h : p.arguments.precision = .blank) : Escapes argv s .blankPrecision
  /-- There is no text in a file, or there are no lines to select from it. -/
  | file {b : Arrival} {name : Text} {s' : Session} {f : Fault} (harrive : arrive argv s = .ok b)
    (hreach : Reaches b.arguments b.options b.files b.session name s')
    (h : Breaks b.arguments b.options s' name (.fault f)) : Escapes argv s f

theorem Plan.arrive_blank {p : Plan} (chosen : Option Target) (s : Session)
    (h : p.arguments.precision = .blank) : p.arrive chosen s = .error ⟨.fault .blankPrecision, s⟩ := by
  rcases p.arrive_cases chosen s with ⟨-, harrive⟩ | ⟨hgiven, -⟩
  · exact harrive
  · exact absurd h hgiven

/-- A run that does not come to its files has an exit code, or something has gone wrong. -/
theorem arrive_ending {out : Outcome} (h : arrive argv s = .error out) :
    out.ending.IsExit ∨ ∃ f, out.ending = .fault f ∧ Escapes argv s f := by
  have hspec := prepare_spec argv s
  rw [arrive] at h
  generalize hprepare : prepare argv s = prepared at h hspec
  cases hspec with
  | @stopped stop hstop =>
    cases h
    cases stop with
    | help => exact Or.inl .ok
    | version => exact Or.inl .ok
    | usage e => exact Or.inl .refused
  | unsettled hparse hload =>
    cases h
    rcases loadSettings_ending hload with hexit | ⟨f, hf, hfault⟩
    · exact Or.inl hexit
    · exact Or.inr ⟨f, hf, .settings hparse hfault⟩
  | refused _ =>
    cases h
    exact Or.inl .refused
  | ready _ _ =>
    obtain ⟨hblank, rfl⟩ := Plan.arrive_eq_error h
    refine Or.inr ⟨_, rfl, .precision ?_ hblank⟩
    rw [hprepare]
    exact .ready _ _
  | asking _ _ =>
    rcases Prepared.arrive_asking_cases _ _ with
      ⟨f, hanswer, heq⟩ | ⟨-, s'', -, heq⟩ | ⟨target, hanswer, heq⟩
    · rw [heq] at h
      cases h
      obtain ⟨hfaults, e, he, rfl⟩ := targetAnswer_eq_error_iff.mp hanswer
      exact Or.inr ⟨_, rfl, .answer hprepare hfaults he⟩
    · rw [heq] at h
      cases h
      exact Or.inl .ok
    · rw [heq] at h
      obtain ⟨hblank, rfl⟩ := Plan.arrive_eq_error h
      refine Or.inr ⟨_, rfl, .precision ?_ hblank⟩
      rw [hprepare]
      exact .asking hanswer

/-- What makes a run end without an exit code does so. -/
theorem Escapes.ending (h : Escapes argv s f) : (run argv s).ending = .fault f := by
  rw [run_eq_arrive]
  cases h with
  | settings hparse h =>
    rw [arrive, prepare, hparse]
    dsimp only
    rw [h.loadSettings]
    rfl
  | @answer p s' e hprepare h he =>
    have hanswer : targetAnswer p.settings.target (splitLine s'.input).1 = .error (.integer e) :=
      targetAnswer_eq_error_iff.mpr ⟨h, e, he, rfl⟩
    rw [arrive, hprepare, Prepared.arrive]
    dsimp only
    rw [hanswer]
  | precision hprepare h =>
    rw [arrive]
    generalize prepare argv s = prepared at hprepare
    cases hprepare with
    | ready p s' =>
      rw [Prepared.arrive, Plan.arrive_blank _ _ h]
    | asking hanswer =>
      rw [Prepared.arrive]
      dsimp only
      rw [hanswer]
      dsimp only
      rw [Plan.arrive_blank _ _ h]
  | file harrive hreach h =>
    rw [harrive]
    exact convertFiles_fault_iff.mpr ⟨_, _, hreach, h⟩

/-- **How runs end.** A run ends by a fault just if something goes wrong that is not told; all other
runs have an exit code. -/
theorem run_ending (argv : List Text) (s : Session) :
    (∀ f, (run argv s).ending = .fault f ↔ Escapes argv s f) ∧
      ((∃ f, Escapes argv s f) ∨ (run argv s).ending.IsExit) := by
  have hcases : (run argv s).ending.IsExit ∨
      ∃ f, (run argv s).ending = .fault f ∧ Escapes argv s f := by
    rw [run_eq_arrive]
    cases harrive : arrive argv s with
    | error out => exact arrive_ending harrive
    | ok b =>
      dsimp only
      rcases convertFiles_ending (a := b.arguments) (o := b.options) (s := b.session) .ok with
        hexit | ⟨f, hf⟩
      · exact Or.inl hexit
      · obtain ⟨name, s', hreach, hbreaks⟩ := convertFiles_fault_iff.mp hf
        exact Or.inr ⟨f, hf, .file harrive hreach hbreaks⟩
  refine ⟨fun f => ⟨fun hf => ?_, Escapes.ending⟩, ?_⟩
  · rcases hcases with hexit | ⟨f', hf', h⟩
    · exact absurd hf (hexit.ne_fault f)
    · rw [hf'] at hf
      cases hf
      exact h
  · exact hcases.symm.imp_left fun ⟨f, _, h⟩ => ⟨f, h⟩

/-- What a run brings to a file of one byte that is no text. -/
def withoutText : Arrival :=
  .ofDisk { files := ["a.css".toList] } { entries := [(["a.css".toList], .file [0xff])] }

/-- **A file whose bytes are no text** leaves a run without an exit code. -/
theorem exists_run_without_text :
    withoutText.session.disk.read "a.css".toList = .ok [0xff] ∧
      ¬ (run ["a.css".toList] withoutText.session).ending.IsExit := by
  have harrive : arrive ["a.css".toList] withoutText.session = .ok withoutText :=
    arrive_of_toOption (by decide +kernel)
  have hread : withoutText.session.disk.read "a.css".toList = .ok [0xff] := rfl
  have hdecode : decodeUtf8 [0xff] = .error ⟨.start, 0, 1, 0xff⟩ := by
    rw [decodeUtf8, decodeUtf8From]
    rfl
  have hbreaks : Breaks withoutText.arguments withoutText.options withoutText.session
      "a.css".toList (.fault (.bytes ⟨.start, 0, 1, 0xff⟩)) :=
    .noText (by decide) (.bytes (by decide) hread hdecode)
  refine ⟨hread, fun hexit => ?_⟩
  exact hexit.ne_fault _ (Escapes.file harrive .first hbreaks).ending

end CssColor
