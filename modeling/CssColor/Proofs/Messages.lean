import CssColor.Proofs.FileSafety
import CssColor.Proofs.MessageSwitches

/-!
# Messages and work

What a run is asked to say on the error output has no part in what it does: two
runs that differ in it read the same, print the same, write the same files and
end alike. Each stage of a run is taken for two runs at once.

- `Outcome.Agrees`: two outcomes differ in messages only.
- `InStep`: two stages both go on, or both end and agree.
- `convertFile_inStep`, `convertFiles_agrees`: one file, and by induction all of
  them.
- `arrive_inStep`: a run up to its files.
- `run_ignores_messages`: **runs that differ in what they are asked of messages
  agree.**
-/

namespace CssColor

/-! ## Agreement -/

/-- Two runs end alike and leave the same behind, but for the error output. -/
structure Outcome.Agrees (out out' : Outcome) : Prop where
  ending : out'.ending = out.ending
  session : out.session.OnlyTold out'.session

/-- Two stages of runs both go on, related by `R`, or both end, and agree. -/
inductive InStep {α : Type} (R : α → α → Prop) : Except Outcome α → Except Outcome α → Prop where
  | onward {x x' : α} (h : R x x') : InStep R (.ok x) (.ok x')
  | ended {out out' : Outcome} (h : out.Agrees out') : InStep R (.error out) (.error out')

namespace Session

variable {s s' : Session}

theorem OnlyTold.symm (h : s.OnlyTold s') : s'.OnlyTold s :=
  ⟨h.input.symm, h.stdout.symm, h.disk.symm, h.depths.symm⟩

/-- Two sessions that differ in messages only still do with more messages in each. -/
theorem OnlyTold.both {s₁ s₁' : Session} (h : s.OnlyTold s') (hs : s.OnlyTold s₁)
    (hs' : s'.OnlyTold s₁') : s₁.OnlyTold s₁' :=
  hs.symm.trans (h.trans hs')

theorem OnlyTold.log (h : s.OnlyTold s') (least least' level level' : LogLevel)
    (message message' : Text) :
    (s.log least level message).OnlyTold (s'.log least' level' message') :=
  h.both (s.onlyTold_log _ _ _) (s'.onlyTold_log _ _ _)

theorem OnlyTold.tellReport (h : s.OnlyTold s') (a a' : Arguments) (r : Result) :
    (s.tellReport a r).OnlyTold (s'.tellReport a' r) :=
  h.both (s.onlyTold_tellReport a r) (s'.onlyTold_tellReport a' r)

/-- A file reads the same in both, and so does the standard input. -/
theorem OnlyTold.readSource (h : s.OnlyTold s') (name : Text) :
    (∃ failure, s.readSource name = .error failure ∧ s'.readSource name = .error failure) ∨
      ∃ t s₁ s₁', s.readSource name = .ok (t, s₁) ∧ s'.readSource name = .ok (t, s₁') ∧
        s₁.OnlyTold s₁' := by
  unfold Session.readSource
  rw [h.disk, h.input]
  split
  · split
    · exact .inl ⟨_, rfl, rfl⟩
    · exact .inr ⟨_, _, _, rfl, rfl, rfl, h.stdout, rfl, h.depths⟩
  · cases s.disk.readText name with
    | error e => exact .inl ⟨_, rfl, rfl⟩
    | ok t => exact .inr ⟨_, _, _, rfl, rfl, h⟩

end Session

variable {a a' : Arguments} {o : Options} {s s' : Session}

/-! ## Files -/

/-- What a file's step hands on: the same result, in sessions that differ in messages only. -/
def SameResult (x x' : Session × Result) : Prop :=
  x.1.OnlyTold x'.1 ∧ x'.2 = x.2

theorem deliver_inStep (ha : a.SameWork a') (hs : s.OnlyTold s') (name : Text) (r : Result) :
    InStep SameResult (deliver a name r s) (deliver a' name r s') := by
  have hplace : a'.inPlace = a.inPlace := (congrArg Arguments.inPlace ha :).symm
  unfold deliver
  rw [hplace, hs.disk]
  split
  · split
    · split
      · exact .ended ⟨rfl, hs.log _ _ _ _ _ _⟩
      · -- both disks are written, and written alike
        have hwritten : ∀ disk, Session.OnlyTold { s with disk } { s' with disk } :=
          fun _ => ⟨hs.input, hs.stdout, rfl, hs.depths⟩
        exact .onward ⟨(hwritten _).tellReport a a' r, rfl⟩
    · exact .onward ⟨hs.tellReport a a' r, rfl⟩
  · have hprinted : (s.print r.output).OnlyTold (s'.print r.output) :=
      ⟨hs.input, congrArg (· ++ r.output) hs.stdout, hs.disk, hs.depths⟩
    exact .onward ⟨hprinted.tellReport a a' r, rfl⟩

/-- **One file's step is the same step**, whatever is said about it. -/
theorem convertFile_inStep (ha : a.SameWork a') (hs : s.OnlyTold s') (o : Options) (name : Text) :
    InStep SameResult (convertFile a o name s) (convertFile a' o name s') := by
  have hlines : a'.lines = a.lines := (congrArg Arguments.lines ha :).symm
  rcases hs.readSource name with ⟨failure, hread, hread'⟩ | ⟨t, s₁, s₁', hread, hread', hs₁⟩
  · unfold convertFile
    rw [hread, hread']
    cases failure with
    | fault f => exact .ended ⟨rfl, hs⟩
    | told e => exact .ended ⟨rfl, hs.log _ _ _ _ _ _⟩
  · by_cases hblank : a.lines = .blank
    · unfold convertFile
      rw [hread, hread']
      dsimp only
      rw [hlines, if_pos hblank, if_pos hblank]
      exact .ended ⟨rfl, hs₁⟩
    · -- what is logged on the way to the result is told only
      obtain ⟨s₂, hs₂, hconvert⟩ := convertFile_of_text (o := o) hread hblank
      obtain ⟨s₂', hs₂', hconvert'⟩ :=
        convertFile_of_text (a := a') (o := o) hread' (by rwa [hlines])
      rw [hconvert, hconvert', hlines]
      exact deliver_inStep ha (hs₁.both hs₂ hs₂') name _

/-- **So are all files' steps**, by induction on the files. -/
theorem convertFiles_agrees (ha : a.SameWork a') (hs : s.OnlyTold s') (o : Options)
    (files : List Text) (code : Nat) :
    (convertFiles a o files code s).Agrees (convertFiles a' o files code s') := by
  induction files generalizing code s s' with
  | nil => exact ⟨rfl, hs⟩
  | cons name files ih =>
    have hstep := convertFile_inStep ha hs o name
    rw [convertFiles, convertFiles]
    generalize convertFile a o name s = x at hstep
    generalize convertFile a' o name s' = x' at hstep
    cases hstep with
    | ended h => exact h
    | @onward x x' h =>
      obtain ⟨htold, hresult⟩ := h
      dsimp only
      rw [hresult]
      exact ih htold _

/-! ## Up to the files -/

theorem loadSettings_inStep (ha : a.SameWork a') (hs : s.OnlyTold s') :
    InStep (fun x x' => x'.1 = x.1 ∧ x.2.OnlyTold x'.2) (loadSettings a s) (loadSettings a' s') := by
  have hconfig : a'.config = a.config := (congrArg Arguments.config ha :).symm
  unfold loadSettings
  rw [hconfig, hs.disk, hs.depths]
  split
  · exact .ended ⟨rfl, hs⟩
  · split
    · exact .ended ⟨rfl, hs⟩
    · exact .ended ⟨rfl, hs.log _ _ _ _ _ _⟩
    · exact .onward ⟨rfl, hs⟩
    · exact .onward ⟨rfl, hs.log _ _ _ _ _ _⟩

/-- Two prepared runs differ in messages only. -/
inductive Prepared.Agrees : Prepared → Prepared → Prop where
  | ended {out out' : Outcome} (h : out.Agrees out') : Agrees (.over out) (.over out')
  | asking {a a' : Arguments} {s s' : Session} (settings : Settings) (files : List Text)
    (ha : a.SameWork a') (hs : s.OnlyTold s') :
    Agrees (.asking ⟨a, settings, files⟩ s) (.asking ⟨a', settings, files⟩ s')
  | ready {a a' : Arguments} {s s' : Session} (settings : Settings) (files : List Text)
    (ha : a.SameWork a') (hs : s.OnlyTold s') :
    Agrees (.ready ⟨a, settings, files⟩ s) (.ready ⟨a', settings, files⟩ s')

theorem prepare_agrees {argv argv' : List Text}
    (h : Alongside Arguments.SameWork (Arguments.parse argv) (Arguments.parse argv'))
    (hnone : ExcludesNone argv) (hnone' : ExcludesNone argv') (s : Session) :
    (prepare argv s).Agrees (prepare argv' s) := by
  unfold ExcludesNone at hnone hnone'
  unfold prepare
  generalize Arguments.parse argv = x at h hnone
  generalize Arguments.parse argv' = x' at h hnone'
  cases h with
  | stopped stop => exact .ended ⟨rfl, .refl _⟩
  | firstExcluded switch other => exact absurd rfl (hnone switch other)
  | secondExcluded switch other => exact absurd rfl (hnone' switch other)
  | @onward a a' ha =>
    have hload := loadSettings_inStep ha (.refl s)
    dsimp only
    generalize loadSettings a s = y at hload
    generalize loadSettings a' s = y' at hload
    cases hload with
    | ended hout => exact .ended hout
    | @onward y y' hy =>
      obtain ⟨_, s₁⟩ := y
      obtain ⟨settings, s₁'⟩ := y'
      obtain ⟨rfl, hs⟩ := hy
      replace hs : s₁.OnlyTold s₁' := hs
      obtain ⟨report, listErrors, verbose, quiet, rfl⟩ := ha.exists_eq
      dsimp only
      generalize (if a.files.isEmpty = true then [inputName] else a.files) = files
      -- the standard input may be refused, for writing or for the question
      split
      · exact .ended ⟨rfl, hs.log _ _ _ _ _ _⟩
      · split
        · split
          · exact .ended ⟨rfl, hs.log _ _ _ _ _ _⟩
          · exact .asking _ _ ha ⟨hs.input, hs.stdout, hs.disk, hs.depths⟩
        · exact .ready _ _ ha hs

/-- What two runs bring to their files: the same work, in sessions that differ in messages only. -/
structure Arrival.Agrees (b b' : Arrival) : Prop where
  arguments : b.arguments.SameWork b'.arguments
  options : b'.options = b.options
  files : b'.files = b.files
  session : b.session.OnlyTold b'.session

theorem Arrival.Agrees.finish {b b' : Arrival} (h : b.Agrees b') : b.finish.Agrees b'.finish := by
  rw [Arrival.finish, Arrival.finish, h.options, h.files]
  exact convertFiles_agrees h.arguments h.session _ _ _

theorem Plan.arrive_inStep (ha : a.SameWork a') (hs : s.OnlyTold s') (settings : Settings)
    (files : List Text) (chosen : Option Target) :
    InStep Arrival.Agrees (Plan.arrive ⟨a, settings, files⟩ chosen s)
      (Plan.arrive ⟨a', settings, files⟩ chosen s') := by
  have hrequest : a'.request settings chosen = a.request settings chosen :=
    (congrArg (Arguments.request · settings chosen) ha :).symm
  unfold Plan.arrive
  dsimp only
  rw [hrequest]
  split
  · exact .ended ⟨rfl, hs⟩
  · split
    · exact .ended ⟨rfl, hs⟩
    · exact .onward ⟨ha, rfl, rfl, hs⟩

theorem Prepared.Agrees.arrive {p p' : Prepared} (h : p.Agrees p') :
    InStep Arrival.Agrees p.arrive p'.arrive := by
  cases h with
  | ended h => exact .ended h
  | @ready a a' _ _ settings files ha hs =>
    have htarget : a'.target = a.target := (congrArg Arguments.target ha :).symm
    unfold Prepared.arrive
    dsimp only
    rw [htarget]
    exact Plan.arrive_inStep ha hs settings files _
  | @asking a a' s s' settings files ha hs =>
    unfold Prepared.arrive
    dsimp only
    rw [hs.input]
    obtain ⟨line, rest⟩ := splitLine s.input
    have hrest : Session.OnlyTold { s with input := rest } { s' with input := rest } :=
      ⟨rfl, hs.stdout, hs.disk, hs.depths⟩
    dsimp only
    split
    · exact .ended ⟨rfl, hrest⟩
    · exact .ended ⟨rfl, hrest.log _ _ _ _ _ _⟩
    · exact Plan.arrive_inStep ha hrest settings files _

/-! ## Whole runs -/

/-- **What a run is asked of messages does not influence its work.** Runs that differ in it end
alike, with the same exit code or the same fault; they read and print the same, and they leave the
same files. Only the error output may differ. -/
theorem run_ignores_messages {told told' argv : List Text} (h : AsksMessages told)
    (h' : AsksMessages told') (hnone : ExcludesNone (told ++ argv))
    (hnone' : ExcludesNone (told' ++ argv)) (s : Session) :
    (run (told ++ argv) s).Agrees (run (told' ++ argv) s) := by
  have hprepare := prepare_agrees (Arguments.parse_alongside h h' argv) hnone hnone' s
  have harrive := hprepare.arrive
  rw [run_eq_arrive, run_eq_arrive, arrive, arrive]
  generalize (prepare (told ++ argv) s).arrive = x at harrive
  generalize (prepare (told' ++ argv) s).arrive = x' at harrive
  cases harrive with
  | ended hout => exact hout
  | onward hb => exact hb.finish

/-- Arguments that ask for all there is to say. -/
def loud : List Text :=
  ["-v".toList, "--report".toList, "json".toList, "--list-errors".toList]

/-- Arguments that ask for as little as possible. -/
def hushed : List Text :=
  ["-q".toList]

/-- A run that converts its first file and cannot read the second does so loudly and quietly. -/
theorem run_ignores_messages_loud :
    AsksMessages loud ∧ AsksMessages hushed ∧
    ExcludesNone (loud ++ ["-i".toList, "a.css".toList, "b.css".toList]) ∧
    ExcludesNone (hushed ++ ["-i".toList, "a.css".toList, "b.css".toList]) ∧
    (run (loud ++ ["-i".toList, "a.css".toList, "b.css".toList]) secondMissing.session).Agrees
      (run (hushed ++ ["-i".toList, "a.css".toList, "b.css".toList]) secondMissing.session) := by
  have hloud : AsksMessages loud := ⟨⟨_, rfl, rfl⟩, by decide⟩
  have hhushed : AsksMessages hushed := ⟨⟨_, rfl, rfl⟩, by decide⟩
  have hnone : ExcludesNone (loud ++ ["-i".toList, "a.css".toList, "b.css".toList]) :=
    fun _ _ => nofun
  have hnone' : ExcludesNone (hushed ++ ["-i".toList, "a.css".toList, "b.css".toList]) :=
    fun _ _ => nofun
  exact ⟨hloud, hhushed, hnone, hnone', run_ignores_messages hloud hhushed hnone hnone' _⟩

end CssColor
