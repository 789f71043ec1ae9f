import CssColor.CommandLine.Run

/-!
# Runs up to their files

A run settles its arguments, settings and target, and then goes through its files.
Until then it changes no file and prints nothing, but for the help and version
texts.

- `Arrival`, `arrive`: what a run brings to its files, or how it ends before.
- `run_eq_arrive`: **a run is what comes before its files, and then its files**.
- `OnlyTold`: two sessions differ by messages only.
- `prepare_spec`: each way that a run can take to the first use of its input.
- `arrive_ok`, `arrive_error`: what has and what has not happened by then.
-/

namespace CssColor

/-! ## Messages -/

/-- The second session is the first one with more messages, or others. -/
structure Session.OnlyTold (s s' : Session) : Prop where
  input : s'.input = s.input
  stdout : s'.stdout = s.stdout
  disk : s'.disk = s.disk
  depths : s'.depths = s.depths

namespace Session.OnlyTold

variable {s s' s'' : Session}

theorem refl (s : Session) : s.OnlyTold s :=
  ⟨rfl, rfl, rfl, rfl⟩

theorem trans (h : s.OnlyTold s') (h' : s'.OnlyTold s'') : s.OnlyTold s'' :=
  ⟨h'.input.trans h.input, h'.stdout.trans h.stdout, h'.disk.trans h.disk,
    h'.depths.trans h.depths⟩

/-- Telling several things one after the other. -/
theorem foldl {α : Type} {f : Session → α → Session} (hf : ∀ (s : Session) (a : α), s.OnlyTold (f s a))
    (items : List α) (s : Session) : s.OnlyTold (items.foldl f s) := by
  induction items generalizing s with
  | nil => exact refl s
  | cons a items ih => exact (hf s a).trans (ih (f s a))

end Session.OnlyTold

namespace Session

theorem onlyTold_tellLine (s : Session) (t : Text) : s.OnlyTold (s.tellLine t) :=
  ⟨rfl, rfl, rfl, rfl⟩

theorem onlyTold_log (s : Session) (least level : LogLevel) (message : Text) :
    s.OnlyTold (s.log least level message) := by
  rw [log]
  split
  · exact onlyTold_tellLine s _
  · exact .refl s

theorem onlyTold_logAttempts (s : Session) (a : Arguments) (o : Options) (t : Text) :
    s.OnlyTold (s.logAttempts a o t) := by
  rw [logAttempts]
  split
  · exact .foldl (fun s message => onlyTold_log s _ _ message) _ s
  · exact .refl s

theorem onlyTold_logResult (s : Session) (least : LogLevel) (name : Text) (r : Result) :
    s.OnlyTold (s.logResult least name r) := by
  have hinfo := onlyTold_log s least .info (sourceName name ++ ": ".toList ++ resultMessage r)
  rw [logResult]
  split
  · exact hinfo.trans (onlyTold_log _ _ _ _)
  · exact hinfo

theorem onlyTold_tellReport (s : Session) (a : Arguments) (r : Result) :
    s.OnlyTold (s.tellReport a r) := by
  have hlist : ∀ {s' : Session}, s.OnlyTold s' → s.OnlyTold
      (if a.listErrors then r.errorColors.foldl tellLine s' else s') := by
    intro s' hreport
    split
    · exact hreport.trans (.foldl (fun s token => onlyTold_tellLine s token) _ _)
    · exact hreport
  rw [tellReport]
  cases a.report with
  | absent => exact hlist (.refl s)
  | blank => exact hlist (onlyTold_tellLine s _)
  | value format => exact hlist (onlyTold_tellLine s _)

end Session

/-! ## Settings -/

/-- Loading settings tells, and changes nothing. -/
theorem onlyTold_loadSettings {a : Arguments} {s s' : Session} {settings : Settings}
    (h : loadSettings a s = .ok (settings, s')) : s.OnlyTold s' := by
  rw [loadSettings] at h
  split at h
  · cases h
  · split at h
    · cases h
    · cases h
    · cases h
      exact .refl s
    · cases h
      exact s.onlyTold_log _ _ _

/-- So does failing to load them. -/
theorem onlyTold_of_loadSettings_error {a : Arguments} {s : Session} {out : Outcome}
    (h : loadSettings a s = .error out) : s.OnlyTold out.session := by
  rw [loadSettings] at h
  split at h
  · cases h
    exact .refl s
  · split at h
    · cases h
      exact .refl s
    · cases h
      exact s.onlyTold_log _ _ _
    · cases h
    · cases h

/-! ## Preparation -/

/-- The files that arguments name; none stand for the standard input. -/
def Arguments.sources (a : Arguments) : List Text :=
  if a.files.isEmpty then [inputName] else a.files

/-- Arguments and settings with which a run goes on to its input. -/
structure GoesOn (argv : List Text) (s : Session) (p : Plan) (s' : Session) : Prop where
  parsed : Arguments.parse argv = .ok p.arguments
  loaded : loadSettings p.arguments s = .ok (p.settings, s')
  files : p.files = p.arguments.sources
  named : p.arguments.inPlace = true → inputName ∉ p.files

/-- A run asks for its target if it has none and is to ask. -/
def Plan.Asks (p : Plan) : Prop :=
  p.arguments.target = .absent ∧
    (p.arguments.prompt || p.settings.promptForFormat) = true

/-- The ways that a run can take to the first use of its input. -/
inductive Prepares (argv : List Text) (s : Session) : Prepared → Prop where
  /-- The command line asks for help or the version, or is refused. -/
  | stopped {stop : Stop} (h : Arguments.parse argv = .error stop) :
    Prepares argv s (.over (stop.outcome s))
  /-- There are no settings. -/
  | unsettled {a : Arguments} {out : Outcome} (h : Arguments.parse argv = .ok a)
    (hload : loadSettings a s = .error out) : Prepares argv s (.over out)
  /-- The standard input is asked to do what it cannot. -/
  | refused {s' : Session} (h : s.OnlyTold s') : Prepares argv s (.over ⟨.exit exitRefused, s'⟩)
  /-- The target is asked for. -/
  | asking {p : Plan} {s' : Session} (h : GoesOn argv s p s') (hasks : p.Asks) :
    Prepares argv s (.asking p (s'.tell (targetMenu p.settings.target)))
  /-- The target is settled. -/
  | ready {p : Plan} {s' : Session} (h : GoesOn argv s p s') (hasks : ¬ p.Asks) :
    Prepares argv s (.ready p s')

/-- Every run takes one of these ways. -/
theorem prepare_spec (argv : List Text) (s : Session) : Prepares argv s (prepare argv s) := by
  rw [prepare]
  cases hparse : Arguments.parse argv with
  | error stop => exact .stopped hparse
  | ok a =>
    dsimp only
    cases hload : loadSettings a s with
    | error out => exact .unsettled hparse hload
    | ok loaded =>
      obtain ⟨settings, s'⟩ := loaded
      have htold := onlyTold_loadSettings hload
      have hrefused : ∀ message : String, Prepares argv s
          (.over ⟨.exit exitRefused, s'.log a.leastLevel .error message.toList⟩) :=
        fun message => .refused (htold.trans (s'.onlyTold_log _ _ _))
      have hsources : (if a.files.isEmpty then [inputName] else a.files) = a.sources := rfl
      dsimp only
      rw [hsources]
      by_cases hinput : (a.inPlace && a.sources.contains inputName) = true
      · rw [if_pos hinput]
        exact hrefused _
      · have hgoes : GoesOn argv s ⟨a, settings, a.sources⟩ s' := by
          refine ⟨hparse, hload, rfl, fun hplace hmem => hinput ?_⟩
          rw [Bool.and_eq_true]
          exact ⟨hplace, List.contains_iff_mem.mpr hmem⟩
        rw [if_neg hinput]
        by_cases hasks : a.target = .absent ∧ (a.prompt || settings.promptForFormat) = true
        · rw [if_pos hasks]
          split
          · exact hrefused _
          · exact .asking hgoes hasks
        · rw [if_neg hasks]
          exact .ready hgoes hasks

/-! ## Arrival -/

/-- What a run brings to its files. -/
structure Arrival where
  arguments : Arguments
  options : Options
  files : List Text
  session : Session
  deriving DecidableEq

/-- What a plan brings to its files, with the target that is chosen if there is one. -/
def Plan.arrive (p : Plan) (chosen : Option Target) (s : Session) : Except Outcome Arrival :=
  match p.arguments.request p.settings chosen with
  | .error f => .error ⟨.fault f, s⟩
  | .ok request =>
    match request.check with
    | .error e => .error ⟨.fault (.options e), s⟩
    | .ok o => .ok ⟨p.arguments, o, p.files, s⟩

/-- What a prepared run brings to its files. -/
def Prepared.arrive : Prepared → Except Outcome Arrival
  | .over outcome => .error outcome
  | .ready p s => p.arrive p.arguments.target.value? s
  | .asking p s =>
    let (line, rest) := splitLine s.input
    match targetAnswer p.settings.target line with
    | .error f => .error ⟨.fault f, { s with input := rest }⟩
    | .ok none =>
      .error ⟨.exit exitOk, { s with input := rest }.log p.arguments.leastLevel .info
        "No format selected; nothing converted.".toList⟩
    | .ok (some target) => p.arrive (some target) { s with input := rest }

/-- What a run brings to its files, or how it ends before it comes to them. -/
def arrive (argv : List Text) (s : Session) : Except Outcome Arrival :=
  (prepare argv s).arrive

theorem arrive_of_toOption {argv : List Text} {s : Session} {b : Arrival}
    (h : (arrive argv s).toOption = some b) : arrive argv s = .ok b := by
  cases harrive : arrive argv s with
  | error out =>
    rw [harrive] at h
    cases h
  | ok b' =>
    rw [harrive] at h
    cases h
    rfl

/-- The end of a run that has come to its files. -/
def Arrival.finish (b : Arrival) : Outcome :=
  convertFiles b.arguments b.options b.files exitOk b.session

theorem Plan.convert_eq (p : Plan) (chosen : Option Target) (s : Session) :
    p.convert chosen s =
      match p.arrive chosen s with
      | .error out => out
      | .ok b => b.finish := by
  rw [Plan.convert, Plan.arrive]
  cases p.arguments.request p.settings chosen with
  | error f => rfl
  | ok request =>
    dsimp only
    cases request.check <;> rfl

/-- **A run is what comes before its files, and then its files.** -/
theorem run_eq_arrive (argv : List Text) (s : Session) :
    run argv s =
      match arrive argv s with
      | .error out => out
      | .ok b => b.finish := by
  rw [run, arrive]
  obtain out | ⟨p, s⟩ | ⟨p, s⟩ := prepare argv s
  · rfl
  · rw [Prepared.finish, Prepared.arrive]
    obtain ⟨line, rest⟩ := splitLine s.input
    dsimp only
    cases targetAnswer p.settings.target line with
    | error f => rfl
    | ok chosen =>
      cases chosen with
      | none => rfl
      | some target => exact p.convert_eq _ _
  · exact p.convert_eq _ s

/-- A request for a precision in range is granted as it is. -/
theorem OptionsRequest.check_of_range {r : OptionsRequest} (hlow : leastPrecision ≤ r.precision)
    (hhigh : r.precision ≤ mostPrecision) :
    ∃ places : Fin 7, (places.val : Int) = r.precision ∧
      r.check = .ok ⟨r.target, places, r.useOpacity, r.explicitAlpha⟩ := by
  rw [OptionsRequest.check, precisionOfInt?, dif_pos ⟨hlow, hhigh⟩]
  exact ⟨_, Int.toNat_of_nonneg hlow, rfl⟩

/-- The options of a run can always be made: the precision is limited before it is checked. -/
theorem Plan.arrive_cases (p : Plan) (chosen : Option Target) (s : Session) :
    p.arguments.precision = .blank ∧ p.arrive chosen s = .error ⟨.fault .blankPrecision, s⟩ ∨
      p.arguments.precision ≠ .blank ∧
        ∃ o, p.arrive chosen s = .ok ⟨p.arguments, o, p.files, s⟩ := by
  rw [Plan.arrive, Arguments.request]
  cases hprecision : p.arguments.precision with
  | blank => exact Or.inl ⟨rfl, rfl⟩
  | absent | value n =>
    refine Or.inr ⟨by simp, ?_⟩
    dsimp only
    generalize hrequest : OptionsRequest.mk _ _ _ _ = request
    obtain ⟨places, -, ho⟩ := OptionsRequest.check_of_range (r := request)
      (hrequest ▸ (limitPrecision_range _).1) (hrequest ▸ (limitPrecision_range _).2)
    rw [ho]
    exact ⟨_, rfl⟩

/-- A plan fails for the precision only. -/
theorem Plan.arrive_eq_error {p : Plan} {chosen : Option Target} {s : Session} {out : Outcome}
    (h : p.arrive chosen s = .error out) :
    p.arguments.precision = .blank ∧ out = ⟨.fault .blankPrecision, s⟩ := by
  rcases p.arrive_cases chosen s with ⟨hblank, harrive⟩ | ⟨-, o, harrive⟩
  · rw [harrive] at h
    cases h
    exact ⟨hblank, rfl⟩
  · rw [harrive] at h
    cases h

/-- What becomes of a question for the target: the answer is a fault, chooses none, or chooses
one. -/
theorem Prepared.arrive_asking_cases (p : Plan) (s : Session) :
    (∃ f, targetAnswer p.settings.target (splitLine s.input).1 = .error f ∧
      (Prepared.asking p s).arrive =
        .error ⟨.fault f, { s with input := (splitLine s.input).2 }⟩) ∨
    (targetAnswer p.settings.target (splitLine s.input).1 = .ok none ∧
      ∃ s', s.disk = s'.disk ∧ (Prepared.asking p s).arrive = .error ⟨.exit exitOk, s'⟩) ∨
    ∃ target, targetAnswer p.settings.target (splitLine s.input).1 = .ok (some target) ∧
      (Prepared.asking p s).arrive =
        p.arrive (some target) { s with input := (splitLine s.input).2 } := by
  rw [Prepared.arrive]
  obtain ⟨line, rest⟩ := splitLine s.input
  dsimp only
  cases targetAnswer p.settings.target line with
  | error f => exact Or.inl ⟨f, rfl, rfl⟩
  | ok chosen =>
    cases chosen with
    | none =>
      refine Or.inr (Or.inl ⟨rfl, _, ?_, rfl⟩)
      exact (Session.onlyTold_log { s with input := rest } _ _ _).disk.symm
    | some target => exact Or.inr (Or.inr ⟨target, rfl, rfl⟩)

/-- What has happened when a run comes to its files: nothing but messages and the answer to a
question. -/
structure Arrived (argv : List Text) (s : Session) (b : Arrival) : Prop where
  parsed : Arguments.parse argv = .ok b.arguments
  files : b.files = b.arguments.sources
  named : b.arguments.inPlace = true → inputName ∉ b.files
  stdout : b.session.stdout = s.stdout
  disk : b.session.disk = s.disk

theorem Plan.arrive_ok {argv : List Text} {s s' s'' : Session} {p : Plan} {chosen : Option Target}
    {b : Arrival} (hgoes : GoesOn argv s p s') (hstdout : s''.stdout = s.stdout)
    (hdisk : s''.disk = s.disk) (h : p.arrive chosen s'' = .ok b) : Arrived argv s b := by
  rcases p.arrive_cases chosen s'' with ⟨-, hblank⟩ | ⟨-, o, harrive⟩
  · rw [hblank] at h
    cases h
  · rw [harrive] at h
    cases h
    exact ⟨hgoes.parsed, hgoes.files, hgoes.named, hstdout, hdisk⟩

/-- **A run comes to its files with the disk as it was**, and nothing printed. -/
theorem arrive_ok {argv : List Text} {s : Session} {b : Arrival} (h : arrive argv s = .ok b) :
    Arrived argv s b := by
  have hspec := prepare_spec argv s
  rw [arrive] at h
  generalize prepare argv s = prepared at h hspec
  cases hspec with
  | stopped _ => cases h
  | unsettled _ _ => cases h
  | refused _ => cases h
  | ready hgoes hasks =>
    have htold := onlyTold_loadSettings hgoes.loaded
    exact Plan.arrive_ok hgoes htold.stdout htold.disk h
  | asking hgoes hasks =>
    have htold := onlyTold_loadSettings hgoes.loaded
    rcases Prepared.arrive_asking_cases _ _ with ⟨f, -, heq⟩ | ⟨-, s'', -, heq⟩ | ⟨target, -, heq⟩
    · rw [heq] at h
      cases h
    · rw [heq] at h
      cases h
    · rw [heq] at h
      exact Plan.arrive_ok hgoes (by exact htold.stdout) (by exact htold.disk) h

/-- **A run that ends before its files leaves the disk as it was.** -/
theorem arrive_error {argv : List Text} {s : Session} {out : Outcome}
    (h : arrive argv s = .error out) : out.session.disk = s.disk := by
  have hspec := prepare_spec argv s
  rw [arrive] at h
  generalize prepare argv s = prepared at h hspec
  cases hspec with
  | @stopped stop hstop =>
    cases h
    cases stop <;> rfl
  | unsettled hparse hload =>
    cases h
    exact (onlyTold_of_loadSettings_error hload).disk
  | refused htold =>
    cases h
    exact htold.disk
  | ready hgoes hasks =>
    obtain ⟨-, rfl⟩ := Plan.arrive_eq_error h
    exact (onlyTold_loadSettings hgoes.loaded).disk
  | asking hgoes hasks =>
    have htold := onlyTold_loadSettings hgoes.loaded
    rcases Prepared.arrive_asking_cases _ _ with
      ⟨f, -, heq⟩ | ⟨-, s'', hdisk, heq⟩ | ⟨target, -, heq⟩
    · rw [heq] at h
      cases h
      exact htold.disk
    · rw [heq] at h
      cases h
      exact hdisk.symm.trans htold.disk
    · rw [heq] at h
      obtain ⟨-, rfl⟩ := Plan.arrive_eq_error h
      exact htold.disk

end CssColor
