import CssColor.CommandLine.Arguments
import CssColor.Proofs.Except

/-!
# Switches for messages

The report, the list of failures and the two switches for what is logged settle
what a run says on the error output. Put in front of a command line, they change
nothing else of what it asks for.

- `Arguments.work`, `SameWork`: arguments without what settles the messages.
- `AsksMessages`: command lines that ask for messages, and for nothing else.
- `Alongside`: two readings of command lines agree, unless one of them is refused
  for switches that exclude each other.
- `Reading.word_alongside`: one more word keeps two readings alongside.
- `parse_alongside`: **command lines that differ in what they ask of messages ask
  for the same work.**
-/

namespace CssColor

namespace Arguments

/-- The arguments without what settles the messages of a run. -/
def work (a : Arguments) : Arguments :=
  { a with report := .absent, listErrors := false, verbose := false, quiet := false }

/-- Two arguments ask for the same work; they may differ in the messages they ask for. -/
def SameWork (a a' : Arguments) : Prop :=
  a.work = a'.work

theorem SameWork.exists_eq {a a' : Arguments} (h : a.SameWork a') :
    ∃ report listErrors verbose quiet, a' = { a with report, listErrors, verbose, quiet } := by
  obtain ⟨files, target, precision, useOpacity, config, prompt, lines, inPlace, _, _, _, _⟩ := a
  obtain ⟨_, _, _, _, _, _, _, _, report, listErrors, verbose, quiet⟩ := a'
  cases h
  exact ⟨report, listErrors, verbose, quiet, rfl⟩

end Arguments

/-- A command line that asks for messages, and for nothing else: it is accepted on its own, and
more arguments may follow it. -/
structure AsksMessages (argv : List Text) : Prop where
  accepted : ∃ a, Arguments.parse argv = .ok a ∧ a.work = {}
  unmarked : separatorText ∉ argv

/-- No two switches of a command line exclude each other. -/
def ExcludesNone (argv : List Text) : Prop :=
  ∀ s other, Arguments.parse argv ≠ .error (.usage (.switch s (.excluded other)))

/-! ## Readings side by side -/

/-- Two results agree, as far as `R` sees, unless one of them is a refusal for switches that exclude
each other. -/
inductive Alongside {α : Type} (R : α → α → Prop) : Except Stop α → Except Stop α → Prop where
  | onward {a a' : α} (h : R a a') : Alongside R (.ok a) (.ok a')
  | stopped (stop : Stop) : Alongside R (.error stop) (.error stop)
  | firstExcluded (s other : Switch) (x : Except Stop α) :
    Alongside R (.error (.usage (.switch s (.excluded other)))) x
  | secondExcluded (s other : Switch) (x : Except Stop α) :
    Alongside R x (.error (.usage (.switch s (.excluded other))))

namespace Alongside

variable {α β : Type} {R : α → α → Prop} {R' : β → β → Prop} {x x' : Except Stop α}

theorem bind {f f' : α → Except Stop β} (h : Alongside R x x')
    (hf : ∀ {a a'}, R a a' → Alongside R' (f a) (f' a')) :
    Alongside R' (x.bind f) (x'.bind f') := by
  cases h with
  | onward h => exact hf h
  | stopped stop => exact .stopped stop
  | firstExcluded s other => exact .firstExcluded s other _
  | secondExcluded s other => exact .secondExcluded s other _

theorem map {f f' : α → β} (h : Alongside R x x') (hf : ∀ {a a'}, R a a' → R' (f a) (f' a')) :
    Alongside R' (x.map f) (x'.map f') := by
  cases h with
  | onward h => exact .onward (hf h)
  | stopped stop => exact .stopped stop
  | firstExcluded s other => exact .firstExcluded s other _
  | secondExcluded s other => exact .secondExcluded s other _

/-- What holds side by side for a step holds for all steps. -/
theorem foldlM {f : α → β → Except Stop α}
    (hf : ∀ {a a'}, R a a' → ∀ b, Alongside R (f a b) (f a' b)) (items : List β) {a a' : α}
    (h : R a a') : Alongside R (items.foldlM f a) (items.foldlM f a') := by
  induction items generalizing a a' with
  | nil => exact .onward h
  | cons b items ih =>
    rw [List.foldlM_cons, List.foldlM_cons]
    exact (hf h b).bind fun h => ih h

end Alongside

/-! ## One word -/

namespace Arguments

variable {a a' : Arguments}

theorem turn_alongside (h : SameWork a a') (s : Switch) :
    Alongside SameWork (a.turn s) (a'.turn s) := by
  obtain ⟨report, listErrors, verbose, quiet, rfl⟩ := h.exists_eq
  cases s with
  | help | version => exact .stopped _
  -- of these two only one may be given, so either side may be refused
  | verbose =>
    unfold turn
    by_cases hquiet : a.quiet = true
    · rw [if_pos hquiet]
      exact .firstExcluded _ _ _
    · cases quiet with
      | true => exact .secondExcluded _ _ _
      | false =>
        rw [if_neg hquiet]
        exact .onward rfl
  | quiet =>
    unfold turn
    by_cases hverbose : a.verbose = true
    · rw [if_pos hverbose]
      exact .firstExcluded _ _ _
    · cases verbose with
      | true => exact .secondExcluded _ _ _
      | false =>
        rw [if_neg hverbose]
        exact .onward rfl
  | _ => exact .onward rfl

theorem put_alongside (h : SameWork a a') (s : Switch) (value : Text) :
    Alongside SameWork (a.put s value) (a'.put s value) := by
  obtain ⟨report, listErrors, verbose, quiet, rfl⟩ := h.exists_eq
  unfold put
  by_cases hvalue : value = separatorText
  · rw [if_pos hvalue, if_pos hvalue]
    cases s <;> exact .onward rfl
  · rw [if_neg hvalue, if_neg hvalue]
    cases s with
    | target =>
      dsimp only
      cases Target.parse value with
      | ok target => exact .onward rfl
      | error e => exact .stopped _
    | precision =>
      dsimp only
      cases value.integer with
      | ok n => exact .onward rfl
      | error e => exact .stopped _
    | lines =>
      dsimp only
      cases LineRange.ofText? value with
      | some range => exact .onward rfl
      | none => exact .stopped _
    | report =>
      dsimp only
      cases ReportFormat.ofName? value with
      | some format => exact .onward rfl
      | none => exact .stopped _
    | _ => exact .onward rfl

namespace Reading

/-- Two readings that differ in the messages that are asked for, if in anything. -/
inductive SameWork (r : Reading) : Reading → Prop where
  | intro {a : Arguments} (h : r.arguments.SameWork a) : SameWork r { r with arguments := a }

variable {r r' : Reading}

theorem SameWork.turnAll (h : r.SameWork r') (switches : List Switch) :
    Alongside SameWork (r.turnAll switches) (r'.turnAll switches) := by
  cases h with
  | intro h => exact (Alongside.foldlM turn_alongside switches h).map fun h => .intro h

theorem SameWork.put (h : r.SameWork r') (s : Switch) (value : Text) :
    Alongside SameWork (r.put s value) (r'.put s value) := by
  cases h with
  | intro h => exact (put_alongside h s value).map fun h => .intro h

theorem SameWork.plain (h : r.SameWork r') (t : Text) : (r.plain t).SameWork (r'.plain t) := by
  obtain ⟨a, group, unrecognized, awaiting⟩ := r
  obtain ⟨h⟩ := h
  obtain ⟨report, listErrors, verbose, quiet, rfl⟩ := h.exists_eq
  cases group <;> exact .intro rfl

theorem SameWork.separator (h : r.SameWork r') : r.separator.SameWork r'.separator := by
  obtain ⟨a, group, unrecognized, awaiting⟩ := r
  obtain ⟨h⟩ := h
  cases group <;> exact .intro h

theorem SameWork.close (h : r.SameWork r') : r.close.SameWork r'.close := by
  obtain ⟨a, group, unrecognized, awaiting⟩ := r
  obtain ⟨h⟩ := h
  cases group <;> exact .intro h

theorem SameWork.unknown (h : r.SameWork r') (t : Text) :
    SameWork { r.close with unrecognized := r.unrecognized ++ [t] }
      { r'.close with unrecognized := r'.unrecognized ++ [t] } := by
  obtain ⟨a, group, unrecognized, awaiting⟩ := r
  obtain ⟨h⟩ := h
  cases group <;> exact .intro h

theorem SameWork.await (h : r.SameWork r') (waiting : Option (List Switch × Switch)) :
    SameWork { r with awaiting := waiting } { r' with awaiting := waiting } := by
  cases h with
  | intro h => exact .intro h

theorem SameWork.switches (h : r.SameWork r') (c : Cluster) :
    Alongside SameWork (r.switches c) (r'.switches c) := by
  rw [Reading.switches, Reading.switches]
  cases c.ending with
  | complete => exact h.turnAll c.plain
  | valued s value => exact (h.turnAll c.plain).bind fun h => h.put s value
  | awaiting s => exact .onward (h.await _)

/-- **One more word keeps two readings alongside.** -/
theorem word_alongside (h : r.SameWork r') (w : Word) :
    Alongside SameWork (r.word w) (r'.word w) := by
  -- both readings await a value, or neither does
  have hawaiting : r'.awaiting = r.awaiting := by
    cases h
    rfl
  unfold word
  rw [hawaiting]
  cases r.awaiting with
  | some waiting =>
    cases w with
    | plain value =>
      exact ((h.await none).turnAll waiting.1).bind fun h => h.put waiting.2 value
    | separator | switch _ | unknown _ => exact .stopped _
  | none =>
    cases w with
    | plain t => exact .onward (h.plain t)
    | separator => exact .onward h.separator
    | unknown t => exact .onward (h.unknown t)
    | switch w =>
      dsimp only
      cases Cluster.ofWritten w with
      | error e => exact .stopped _
      | ok c => exact h.close.switches c

theorem finish_alongside (h : r.SameWork r') :
    Alongside Arguments.SameWork r.finish r'.finish := by
  cases h with
  | intro h =>
    unfold finish
    dsimp only
    split
    · exact .stopped _
    · split
      · exact .onward h
      · exact .stopped _

end Reading

end Arguments

/-! ## More arguments behind a command line -/

namespace Word

theorem unnamed_ne_separator (t : Text) : unnamed t ≠ separator := by
  rw [unnamed]
  split <;> exact nofun

/-- Only the mark itself is read as the mark. -/
theorem ofArgument_ne_separator (t : Text) : ofArgument t ≠ .ok separator := by
  have hlong : ∀ name value, long t name value ≠ .ok separator := by
    intro name value
    rw [long]
    split
    · exact fun h => unnamed_ne_separator t (Except.ok.inj h)
    · exact nofun
    · exact nofun
  have hshort : ∀ letter behind, short t letter behind ≠ separator := by
    intro letter behind
    rw [short]
    split
    · exact nofun
    · exact unnamed_ne_separator t
  unfold ofArgument
  split
  · split
    · exact nofun
    · dsimp only
      split
      · exact nofun
      · split
        · exact hlong _ _
        · exact fun h => hshort _ _ (Except.ok.inj h)
  · exact nofun

/-- The words of an unmarked command line stay the same with more arguments behind it, and none of
them is a mark. -/
theorem read_append {argv : List Text} {words : List Word} (h : read argv = .ok words)
    (hmark : separatorText ∉ argv) :
    separator ∉ words ∧ ∀ rest, read (argv ++ rest) = (read rest).map (words ++ ·) := by
  induction argv generalizing words with
  | nil =>
    cases h
    refine ⟨List.not_mem_nil, fun rest => ?_⟩
    rw [List.nil_append]
    cases read rest <;> rfl
  | cons t argv ih =>
    rw [List.mem_cons, not_or] at hmark
    obtain ⟨ht, hmark⟩ := hmark
    rw [read, if_neg (Ne.symm ht)] at h
    cases hword : ofArgument t with
    | error e =>
      rw [hword] at h
      cases h
    | ok w =>
      rw [hword] at h
      obtain ⟨words, hread, rfl⟩ := map_eq_ok.mp h
      obtain ⟨hnone, hrest⟩ := ih hread hmark
      have hw : separator ≠ w := by
        rintro rfl
        exact ofArgument_ne_separator t hword
      have hwords : separator ∉ w :: words := by
        rw [List.mem_cons, not_or]
        exact ⟨hw, hnone⟩
      refine ⟨hwords, fun rest => ?_⟩
      rw [List.cons_append, read, if_neg (Ne.symm ht), hword]
      dsimp only
      rw [hrest rest]
      cases read rest <;> rfl

end Word

namespace Arguments

variable {a a' : Arguments}

theorem turn_files {s : Switch} (h : a.turn s = .ok a') : a'.files = a.files := by
  cases s with
  | help | version => cases h
  | verbose | quiet =>
    rw [turn] at h
    split at h
    · cases h
    · cases h
      rfl
  | _ =>
    cases h
    rfl

theorem turnAll_files {switches : List Switch} (h : switches.foldlM turn a = .ok a') :
    a'.files = a.files := by
  induction switches generalizing a with
  | nil =>
    cases h
    rfl
  | cons s switches ih =>
    rw [List.foldlM_cons] at h
    obtain ⟨a₁, hturn, hrest⟩ := bind_eq_ok.mp h
    rw [ih hrest, turn_files hturn]

theorem put_files {s : Switch} {value : Text} (h : a.put s value = .ok a') :
    a'.files = a.files := by
  unfold put at h
  dsimp only at h
  split at h
  · cases h
    cases s <;> rfl
  · split at h
    any_goals split at h
    all_goals
      cases h
      try rfl

namespace Reading

variable {r r' : Reading}

/-- The group of files begins with a file, if not with the mark. -/
def Begun (r : Reading) : Prop :=
  r.arguments.files = [] → r.group = .ahead

theorem Begun.of_eq (h : r.Begun) (hfiles : r'.arguments.files = r.arguments.files)
    (hgroup : r'.group = r.group) : r'.Begun := by
  rw [Begun, hfiles, hgroup]
  exact h

theorem Begun.turnAll {switches : List Switch} (h : r.Begun) (hok : r.turnAll switches = .ok r') :
    r'.Begun := by
  obtain ⟨a, hturn, rfl⟩ := map_eq_ok.mp hok
  exact h.of_eq (turnAll_files hturn) rfl

theorem Begun.put {s : Switch} {value : Text} (h : r.Begun) (hok : r.put s value = .ok r') :
    r'.Begun := by
  obtain ⟨a, hput, rfl⟩ := map_eq_ok.mp hok
  exact h.of_eq (put_files hput) rfl

theorem Begun.turnAll_put {switches : List Switch} {s : Switch} {value : Text} (h : r.Begun)
    (hok : ((r.turnAll switches).bind fun r => r.put s value) = .ok r') : r'.Begun := by
  obtain ⟨r₁, hturn, hput⟩ := bind_eq_ok.mp hok
  exact (h.turnAll hturn).put hput

theorem Begun.close (h : r.Begun) : r.close.Begun := by
  obtain ⟨a, group, unrecognized, awaiting⟩ := r
  cases group with
  | ahead => exact h
  | _ => exact fun hfiles => nomatch h hfiles

theorem Begun.plain (h : r.Begun) (t : Text) : (r.plain t).Begun := by
  have hfile : r.arguments.files ++ [t] ≠ [] := by simp
  obtain ⟨a, group, unrecognized, awaiting⟩ := r
  cases group with
  | ahead | here => exact fun hfiles => absurd hfiles hfile
  | _ => exact h

theorem Begun.word {w : Word} (h : r.Begun) (hw : Word.separator ≠ w) (hok : r.word w = .ok r') :
    r'.Begun := by
  unfold Reading.word at hok
  split at hok
  · exact Begun.turnAll_put (r := { r with awaiting := none }) h hok
  · cases hok
  · cases hok
    exact h.plain _
  · exact absurd rfl hw
  · cases hok
    exact h.close
  · split at hok
    · cases hok
    · rename_i c _
      rw [switches] at hok
      cases hending : c.ending with
      | complete =>
        rw [hending] at hok
        exact h.close.turnAll hok
      | valued s value =>
        rw [hending] at hok
        exact h.close.turnAll_put hok
      | awaiting s =>
        rw [hending] at hok
        cases hok
        exact h.close

theorem Begun.words {words : List Word} (h : r.Begun) (hwords : Word.separator ∉ words)
    (hok : words.foldlM Reading.word r = .ok r') : r'.Begun := by
  induction words generalizing r with
  | nil =>
    cases hok
    exact h
  | cons w words ih =>
    rw [List.mem_cons, not_or] at hwords
    obtain ⟨hw, hwords⟩ := hwords
    rw [List.foldlM_cons] at hok
    obtain ⟨r₁, hword, hrest⟩ := bind_eq_ok.mp hok
    exact ih (h.word hw hword) hwords hrest

theorem finish_eq_ok {a : Arguments} (h : r.finish = .ok a) :
    r.arguments = a ∧ r.unrecognized = [] ∧ r.awaiting = none := by
  rw [finish] at h
  split at h
  · cases h
  · rename_i hawaiting
    split at h
    · rename_i hall
      exact ⟨Except.ok.inj h, List.isEmpty_iff.mp hall, hawaiting⟩
    · cases h

/-- What a command line asks for behind words that are read already. -/
def resume (r : Reading) (argv : List Text) : Except Stop Arguments :=
  match Word.read argv with
  | .error e => .error (.usage e)
  | .ok words => (words.foldlM word r).bind finish

theorem SameWork.resume (h : r.SameWork r') (argv : List Text) :
    Alongside Arguments.SameWork (r.resume argv) (r'.resume argv) := by
  rw [Reading.resume, Reading.resume]
  cases Word.read argv with
  | error e => exact .stopped _
  | ok words => exact (Alongside.foldlM word_alongside words h).bind finish_alongside

end Reading

/-- **Arguments that ask for messages leave the reading of a command line where it was**, but for
the messages that are asked for. -/
theorem parse_asksMessages {told : List Text} (h : AsksMessages told) :
    ∃ a : Arguments, a.work = {} ∧
      ∀ argv, parse (told ++ argv) = Reading.resume { arguments := a } argv := by
  obtain ⟨⟨a, hparse, hwork⟩, hmark⟩ := h
  refine ⟨a, hwork, fun argv => ?_⟩
  rw [parse] at hparse
  cases hread : Word.read told with
  | error e =>
    rw [hread] at hparse
    cases hparse
  | ok words =>
    rw [hread] at hparse
    obtain ⟨hwords, happend⟩ := Word.read_append hread hmark
    obtain ⟨r, hfold, hfinish⟩ := bind_eq_ok.mp hparse
    obtain ⟨harguments, hunrecognized, hawaiting⟩ := Reading.finish_eq_ok hfinish
    -- no files are named, so the group of files is still ahead
    have hgroup : r.group = .ahead := by
      refine Reading.Begun.words (fun _ => rfl) hwords hfold ?_
      rw [harguments]
      exact congrArg files hwork
    have hr : r = { arguments := a } := by
      obtain ⟨_, _, _, _⟩ := r
      cases harguments
      cases hgroup
      cases hunrecognized
      cases hawaiting
      rfl
    rw [parse, happend, Reading.resume]
    cases Word.read argv with
    | error e => rfl
    | ok rest =>
      show ((words ++ rest).foldlM Reading.word {}).bind Reading.finish = _
      rw [List.foldlM_append, hfold, hr]
      rfl

/-- **Command lines that differ in what they ask of messages ask for the same work**, unless one of
them is refused for switches that exclude each other. -/
theorem parse_alongside {told told' : List Text} (h : AsksMessages told) (h' : AsksMessages told')
    (argv : List Text) : Alongside SameWork (parse (told ++ argv)) (parse (told' ++ argv)) := by
  obtain ⟨a, ha, hparse⟩ := parse_asksMessages h
  obtain ⟨a', ha', hparse'⟩ := parse_asksMessages h'
  rw [hparse, hparse']
  have hwork : a.SameWork a' := ha.trans ha'.symm
  have hreading : Reading.SameWork { arguments := a } { arguments := a' } := .intro hwork
  exact hreading.resume argv

end Arguments

/-- Arguments that ask for messages may be put together, as long as they do not exclude each
other. -/
theorem AsksMessages.append {told told' : List Text} (h : AsksMessages told)
    (h' : AsksMessages told') (hnone : ExcludesNone (told ++ told')) :
    AsksMessages (told ++ told') := by
  have hnil : AsksMessages [] := ⟨⟨{}, rfl, rfl⟩, List.not_mem_nil⟩
  have halong := Arguments.parse_alongside h hnil told'
  obtain ⟨a', hparse', hwork'⟩ := h'.accepted
  refine ⟨?_, fun hmem => (List.mem_append.mp hmem).elim h.unmarked h'.unmarked⟩
  rw [List.nil_append, hparse'] at halong
  cases hparse : Arguments.parse (told ++ told') with
  | error stop =>
    rw [hparse] at halong
    cases halong with
    | firstExcluded s other => exact absurd hparse (hnone s other)
  | ok a =>
    rw [hparse] at halong
    cases halong with
    | onward hsame => exact ⟨a, rfl, hsame.trans hwork'⟩

example : AsksMessages ["-v".toList, "--report=json".toList, "--list-err".toList] :=
  ⟨⟨_, rfl, rfl⟩, by decide⟩

end CssColor
