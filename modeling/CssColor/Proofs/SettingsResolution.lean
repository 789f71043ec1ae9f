import Mathlib.Logic.Relation
import CssColor.Proofs.Except
import CssColor.Settings.Resolution

/-!
# Which entries settle the settings

A mapping may hold settings under names of two styles, in a section or not, among
entries that are none of its business. Of all this only one value for each setting
counts, and what is made of it.

- `entry?_append_cons_of_ne`, `entry?_append_cons_self`, `entry?_perm`: what is found
  under a text once an entry is added, or the order is changed.
- `camelCase`: the second style of a name; `given`: what is found under a name in
  either style.
- `resolve`: the settings by what is given for each name; `ofEntries_eq_resolve`.
- `Adjusts`, `Unnoticed`: changes of a mapping that no setting notices;
  `Unnoticed.given_eq`: what such a change preserves.
- `ofValue_resolution`: **settings are resolved by what is given in the entries that
  count**, they have a precision in range, and they are read back from their own
  fields.
-/

namespace CssColor

/-! ## Entries under texts -/

namespace Value

section Entries

variable {key : Value} {w : Text} {entries entries' : List (Value × Value)}

/-- Only a text is the same key as a text. -/
theorem sameKey_text_iff : sameKey key (text w) = true ↔ key = text w := by
  cases key <;> simp [sameKey, keyInt?]

theorem entry?_append (before after : List (Value × Value)) :
    entry? w (before ++ after) = (Value.entry? w before).or (Value.entry? w after) := by
  rw [Value.entry?, List.find?_append, Option.map_or]
  rfl

theorem entry?_cons_self (v : Value) : entry? w ((text w, v) :: entries) = some v := by
  rw [Value.entry?, List.find?_cons_of_pos]
  · rfl
  · exact sameKey_text_iff.mpr rfl

theorem entry?_cons_of_ne (h : key ≠ text w) (v : Value) :
    entry? w ((key, v) :: entries) = entry? w entries := by
  rw [Value.entry?, List.find?_cons_of_neg]
  · rfl
  · exact fun hsame => h (sameKey_text_iff.mp hsame)

/-- An entry under another key is passed over. -/
theorem entry?_append_cons_of_ne (h : key ≠ text w) (before after : List (Value × Value))
    (v : Value) : entry? w (before ++ (key, v) :: after) = entry? w (before ++ after) := by
  rw [entry?_append, entry?_append, entry?_cons_of_ne h]

/-- The only entry under a text is found wherever it stands. -/
theorem entry?_append_cons_self {before after : List (Value × Value)}
    (h : entry? w (before ++ after) = none) (v : Value) :
    entry? w (before ++ (text w, v) :: after) = some v := by
  rw [entry?_append, Option.or_eq_none_iff] at h
  rw [entry?_append, h.1, entry?_cons_self]
  rfl

/-- No text is the key of two entries. -/
def DistinctTexts (entries : List (Value × Value)) : Prop :=
  entries.Pairwise fun a b => ∀ w, a.1 = text w → b.1 ≠ text w

/-- What is found under a text is what stands there, wherever that is. -/
theorem entry?_eq_some_iff (hdistinct : DistinctTexts entries) {v : Value} :
    entry? w entries = some v ↔ (text w, v) ∈ entries := by
  induction entries with
  | nil => exact iff_of_false nofun List.not_mem_nil
  | cons e entries ih =>
    obtain ⟨hfirst, hrest⟩ := List.pairwise_cons.mp hdistinct
    obtain ⟨key, u⟩ := e
    by_cases hkey : key = text w
    · subst hkey
      rw [entry?_cons_self, List.mem_cons]
      constructor
      · rintro ⟨⟩
        exact Or.inl rfl
      · rintro (heq | hmem)
        · rw [(Prod.mk.inj heq).2]
        · exact absurd rfl (hfirst _ hmem w rfl)
    · rw [entry?_cons_of_ne hkey, ih hrest, List.mem_cons, or_iff_right]
      exact fun heq => hkey (congrArg Prod.fst heq).symm

/-- **Entries in another order hold the same under every text.** -/
theorem entry?_perm (hdistinct : DistinctTexts entries) (h : entries.Perm entries') :
    entry? w entries = entry? w entries' := by
  have hdistinct' := (h.pairwise_iff fun hne w hb ha => hne w ha hb).mp hdistinct
  refine Option.ext fun v => ?_
  rw [entry?_eq_some_iff hdistinct, entry?_eq_some_iff hdistinct', h.mem_iff]

end Entries

end Value

open Value

namespace Settings

/-! ## Names of settings -/

/-- A name without its underscores; the letter behind each is a capital. -/
def camelCase : Text → Text
  | '_' :: c :: t => c.toUpper :: camelCase t
  | c :: t => c :: camelCase t
  | [] => []

/-- The names of the settings. -/
def settingNames : List Text :=
  ["target_format".toList, "precision".toList, "use_opacity".toList, "prompt_for_format".toList]

/-- The keys under which a setting may stand. -/
def recognisedKeys : List Text :=
  settingNames.flatMap fun name => [name, camelCase name]

theorem mem_recognisedKeys {name key : Text} (hname : name ∈ settingNames)
    (hkey : key ∈ [name, camelCase name]) : key ∈ recognisedKeys :=
  List.mem_flatMap.mpr ⟨name, hname, hkey⟩

/-- No key belongs to two settings. -/
theorem settingNames_separate :
    ∀ name ∈ settingNames, ∀ other ∈ settingNames, name ≠ other →
      ∀ key ∈ [name, camelCase name], key ∉ [other, camelCase other] := by
  decide

/-- No setting stands under the key of the section. -/
theorem sectionKey_notMem : sectionKey ∉ recognisedKeys := by
  decide

/-- What entries give for a setting: the value under its name, or else under its name in the other
style. -/
def given (entries : List (Value × Value)) (name : Text) : Option Value :=
  (Value.entry? name entries).or (Value.entry? (camelCase name) entries)

/-! ## Resolution -/

/-- What a reader makes of a value that is given; without one a setting has its default. -/
def settle {α : Type} (read : Value → Except (Failure SettingsError) α) (fallback : α) :
    Option Value → Except (Failure SettingsError) α
  | some v => read v
  | none => .ok fallback

/-- The settings by what is given for each name. -/
def resolve (depths : Depths) (given : Text → Option Value) :
    Except (Failure SettingsError) Settings := do
  let target ← settle (targetOf depths) .oklch (given "target_format".toList)
  let precision ← settle (precisionOf depths) 2 (given "precision".toList)
  let useOpacity ← settle (truthOf depths "use_opacity".toList) true (given "use_opacity".toList)
  let promptForFormat ←
    settle (truthOf depths "prompt_for_format".toList) false (given "prompt_for_format".toList)
  return ⟨precision, useOpacity, target, promptForFormat⟩

theorem resolve_congr (depths : Depths) {given given' : Text → Option Value}
    (h : ∀ name ∈ settingNames, given name = given' name) :
    resolve depths given = resolve depths given' := by
  rw [resolve, resolve, h _ (by decide), h _ (by decide), h _ (by decide), h _ (by decide)]

theorem setting_eq_settle {α : Type} (read : Value → Except (Failure SettingsError) α)
    (spellings : List Text) (fallback : α) (entries : List (Value × Value)) :
    setting read spellings fallback entries = settle read fallback (chosen? spellings entries) := by
  rw [setting]
  cases chosen? spellings entries <;> rfl

/-- Of two spellings the first one counts if it is there. -/
theorem chosen?_pair (key key' : Text) (entries : List (Value × Value)) :
    chosen? [key, key'] entries = (Value.entry? key entries).or (Value.entry? key' entries) := by
  rw [chosen?, List.findSome?_cons]
  cases Value.entry? key entries with
  | some v => rfl
  | none =>
    rw [List.findSome?_cons]
    cases Value.entry? key' entries <;> rfl

/-- **The settings of entries are what is given for each name.** -/
theorem ofEntries_eq_resolve (depths : Depths) (entries : List (Value × Value)) :
    ofEntries depths entries = resolve depths (given entries) := by
  -- the precision has a name of one word, which is the same in both styles
  have hprecision : chosen? precisionKeys entries = given entries "precision".toList := by
    have hstyle : camelCase "precision".toList = "precision".toList := by decide
    rw [chosen?, precisionKeys, List.findSome?_cons, given, hstyle]
    cases Value.entry? "precision".toList entries <;> rfl
  simp only [ofEntries, resolve, setting_eq_settle, hprecision, targetKeys, opacityKeys, promptKeys,
    chosen?_pair]
  rfl

/-! ## Changes that no setting notices -/

/-- A change of a mapping by which no setting gets another value: keys that are watched are not
added, and all other values stay what they were. -/
inductive Adjusts (watched : List Text) : List (Value × Value) → List (Value × Value) → Prop
  /-- An entry is added that nobody looks for. -/
  | unknown {before after : List (Value × Value)} {key v : Value}
    (hkey : ∀ w ∈ watched, key ≠ .text w) :
    Adjusts watched (before ++ after) (before ++ (key, v) :: after)
  /-- The entries are put in another order. -/
  | reorder {entries entries' : List (Value × Value)} (hdistinct : DistinctTexts entries)
    (h : entries.Perm entries') : Adjusts watched entries entries'
  /-- A setting gets its name in the other style, under which there is none yet. -/
  | rename {before after : List (Value × Value)} {name : Text} {v : Value}
    (hname : name ∈ settingNames) (honly : Value.entry? name (before ++ after) = none)
    (habsent : Value.entry? (camelCase name) (before ++ after) = none) :
    Adjusts watched (before ++ (.text name, v) :: after)
      (before ++ (.text (camelCase name), v) :: after)

section Changes

variable {watched : List Text} {entries entries' : List (Value × Value)}

/-- A key that is neither a setting's nor added holds what it held. -/
theorem Adjusts.entry?_eq (h : Adjusts watched entries entries') {key : Text}
    (hwatched : key ∈ watched) (hkey : key ∉ recognisedKeys) :
    Value.entry? key entries = Value.entry? key entries' := by
  cases h with
  | unknown hother => rw [entry?_append_cons_of_ne (hother key hwatched)]
  | reorder hdistinct h => exact entry?_perm hdistinct h
  | @rename before after name v hname =>
    have hother : ∀ {w : Text}, w ∈ recognisedKeys → Value.text w ≠ .text key := by
      rintro w hw ⟨⟩
      exact hkey hw
    rw [entry?_append_cons_of_ne (hother (mem_recognisedKeys hname (by simp))),
      entry?_append_cons_of_ne (hother (mem_recognisedKeys hname (by simp)))]

/-- **No setting is given another value.** -/
theorem Adjusts.given_eq (h : Adjusts watched entries entries')
    (hwatched : recognisedKeys ⊆ watched) {name : Text} (hname : name ∈ settingNames) :
    given entries name = given entries' name := by
  have hkeys : ∀ key ∈ [name, camelCase name], key ∈ watched :=
    fun key hkey => hwatched (mem_recognisedKeys hname hkey)
  cases h with
  | unknown hother =>
    rw [given, given, entry?_append_cons_of_ne (hother _ (hkeys _ (by simp))),
      entry?_append_cons_of_ne (hother _ (hkeys _ (by simp)))]
  | reorder hdistinct h => rw [given, given, entry?_perm hdistinct h, entry?_perm hdistinct h]
  | @rename before after renamed v hrenamed honly habsent =>
    by_cases hsame : name = renamed
    · subst hsame
      rw [given, given, entry?_append_cons_self honly, entry?_append_cons_self habsent,
        Option.some_or]
      by_cases hstyle : camelCase name = name
      · rw [hstyle, entry?_append_cons_self honly, Option.some_or]
      · rw [entry?_append_cons_of_ne (fun h => hstyle (Value.text.inj h)), honly, Option.none_or]
    · -- another setting is found under keys of its own
      have hkept : ∀ key ∈ [name, camelCase name], ∀ key' ∈ [renamed, camelCase renamed],
          Value.entry? key (before ++ (.text key', v) :: after) =
            Value.entry? key (before ++ after) := by
        intro key hkey key' hkey'
        refine entry?_append_cons_of_ne ?_ before after v
        rintro ⟨⟩
        exact settingNames_separate _ hname _ hrenamed hsame _ hkey hkey'
      rw [given, given, hkept name (by simp) renamed (by simp),
        hkept (camelCase name) (by simp) renamed (by simp),
        hkept name (by simp) (camelCase renamed) (by simp),
        hkept (camelCase name) (by simp) (camelCase renamed) (by simp)]

/-- The entries that count: those of a section that holds some, else all. -/
inductive Counts (entries : List (Value × Value)) : List (Value × Value) → Prop
  | inner {v : Value} {inner : List (Value × Value)}
    (hsection : Value.entry? sectionKey entries = some v) (hinner : v.opened = .mapping inner) :
    Counts entries inner
  | whole (h : ∀ v inner, Value.entry? sectionKey entries = some v → v.opened ≠ .mapping inner) :
    Counts entries entries

theorem Counts.effective_eq {counted : List (Value × Value)} (h : Counts entries counted) :
    effective entries = counted := by
  cases h with
  | inner hsection hinner => rw [effective, hsection, Option.map_some, hinner]
  | whole h =>
    rw [effective]
    split
    · rename_i inner hsection
      obtain ⟨v, hv, hinner⟩ := Option.map_eq_some_iff.mp hsection
      exact absurd hinner (h v inner hv)
    · rfl

theorem exists_counts (entries : List (Value × Value)) : ∃ counted, Counts entries counted := by
  by_cases h : ∃ v inner, Value.entry? sectionKey entries = some v ∧ v.opened = .mapping inner
  · obtain ⟨v, inner, hv, hopened⟩ := h
    exact ⟨inner, .inner hv hopened⟩
  · exact ⟨entries, .whole fun v inner hv hopened => h ⟨v, inner, hv, hopened⟩⟩

/-- A change of a mapping that no setting notices. -/
inductive Unnoticed : List (Value × Value) → List (Value × Value) → Prop
  /-- Entries are adjusted, and no section is added. -/
  | whole {entries entries' : List (Value × Value)}
    (h : Adjusts (sectionKey :: recognisedKeys) entries entries') : Unnoticed entries entries'
  /-- Entries of the section are adjusted. -/
  | inside {entries entries' inner inner' : List (Value × Value)} {v v' : Value}
    (hsection : Value.entry? sectionKey entries = some v)
    (hsection' : Value.entry? sectionKey entries' = some v') (hinner : v.opened = .mapping inner)
    (hinner' : v'.opened = .mapping inner') (h : Adjusts recognisedKeys inner inner') :
    Unnoticed entries entries'
  /-- Whatever stands outside the section is changed. -/
  | outside {entries entries' inner : List (Value × Value)} {v : Value}
    (hsection : Value.entry? sectionKey entries = some v)
    (hsection' : Value.entry? sectionKey entries' = some v) (hinner : v.opened = .mapping inner) :
    Unnoticed entries entries'

/-- **The entries that count give each setting what they gave it before.** -/
theorem Unnoticed.given_eq (h : Unnoticed entries entries') {name : Text}
    (hname : name ∈ settingNames) :
    given (effective entries) name = given (effective entries') name := by
  cases h with
  | whole h =>
    have hsection := h.entry?_eq List.mem_cons_self sectionKey_notMem
    have hgiven := h.given_eq (List.subset_cons_self _ _) hname
    obtain ⟨counted, hcounts⟩ := exists_counts entries
    have heffective := hcounts.effective_eq
    cases hcounts with
    | inner hv hopened => rw [heffective, (Counts.inner (hsection ▸ hv) hopened).effective_eq]
    | whole hnone => rw [heffective, (Counts.whole (hsection ▸ hnone)).effective_eq, hgiven]
  | inside hsection hsection' hinner hinner' h =>
    rw [(Counts.inner hsection hinner).effective_eq, (Counts.inner hsection' hinner').effective_eq]
    exact h.given_eq (List.Subset.refl _) hname
  | outside hsection hsection' hinner =>
    rw [(Counts.inner hsection hinner).effective_eq, (Counts.inner hsection' hinner).effective_eq]

/-- Nor do several such changes one after the other, made or undone. -/
theorem given_eq_of_eqvGen (h : Relation.EqvGen Unnoticed entries entries') {name : Text}
    (hname : name ∈ settingNames) :
    given (effective entries) name = given (effective entries') name := by
  induction h with
  | rel _ _ h => exact h.given_eq hname
  | refl => rfl
  | symm _ _ _ ih => exact ih.symm
  | trans _ _ _ _ _ ih ih' => exact ih.trans ih'

end Changes

/-! ## Settings that are returned -/

section Returned

variable {depths : Depths}

/-- A precision is limited, whatever stood for it. -/
theorem exists_limitPrecision {v : Value} {n : Int} (h : precisionOf depths v = .ok n) :
    ∃ m, n = limitPrecision m := by
  rw [precisionOf] at h
  split at h
  · exact ⟨_, (Except.ok.inj h).symm⟩
  · rw [refuse] at h
    split at h <;> cases h
  · cases h

/-- The default is in range as well. -/
theorem settle_precisionOf_range {given : Option Value} {n : Int}
    (h : settle (precisionOf depths) 2 given = .ok n) : leastPrecision ≤ n ∧ n ≤ mostPrecision := by
  cases given with
  | none =>
    cases h
    decide
  | some v =>
    obtain ⟨m, rfl⟩ := exists_limitPrecision h
    exact limitPrecision_range m

/-- **Settings that are returned have a precision in range.** -/
theorem ofValue_range {v : Value} {s : Settings} (h : ofValue depths v = .ok s) :
    leastPrecision ≤ s.precision ∧ s.precision ≤ mostPrecision := by
  rw [ofValue] at h
  split at h
  · cases h
    decide
  · rw [ofEntries_eq_resolve, resolve] at h
    obtain ⟨target, -, h⟩ := bind_eq_ok.mp h
    obtain ⟨precision, hprecision, h⟩ := bind_eq_ok.mp h
    obtain ⟨useOpacity, -, h⟩ := bind_eq_ok.mp h
    obtain ⟨promptForFormat, -, h⟩ := bind_eq_ok.mp h
    cases h
    exact settle_precisionOf_range hprecision
  · cases h

/-- The fields of settings under their names, the target by its own. -/
def fields (s : Settings) : List (Value × Value) :=
  [(.text "precision".toList, .int s.precision), (.text "use_opacity".toList, .bool s.useOpacity),
   (.text "target_format".toList, .text s.target.name),
   (.text "prompt_for_format".toList, .bool s.promptForFormat)]

theorem targetOf_name (target : Target) : targetOf depths (.text target.name) = .ok target := by
  cases target <;> rfl

/-- **Settings with a precision in range are read back from their fields.** -/
theorem ofValue_fields {s : Settings} (hlow : leastPrecision ≤ s.precision)
    (hhigh : s.precision ≤ mostPrecision) : ofValue depths (.mapping s.fields) = .ok s := by
  have hwhole : effective s.fields = s.fields := rfl
  have htarget : given s.fields "target_format".toList = some (.text s.target.name) := rfl
  have hprecision : given s.fields "precision".toList = some (.int s.precision) := rfl
  have hopacity : given s.fields "use_opacity".toList = some (.bool s.useOpacity) := rfl
  have hprompt : given s.fields "prompt_for_format".toList = some (.bool s.promptForFormat) := rfl
  have hlimit : precisionOf depths (.int s.precision) = .ok s.precision :=
    congrArg _ (limitPrecision_of_range hlow hhigh)
  show ofEntries depths (effective s.fields) = .ok s
  rw [hwhole, ofEntries_eq_resolve, resolve, htarget, hprecision, hopacity, hprompt]
  simp only [settle, targetOf_name, hlimit, truthOf]
  rfl

/-! ## Resolution of values -/

theorem ofValue_eq_resolve {v : Value} {entries counted : List (Value × Value)}
    (hv : v.opened = .mapping entries) (h : Counts entries counted) :
    ofValue depths v = resolve depths (given counted) := by
  rw [ofValue, hv]
  show ofEntries depths (effective entries) = _
  rw [h.effective_eq, ofEntries_eq_resolve]

end Returned

/-- **Settings are resolved by what is given in the entries that count**, each under its name or its
name in the other style; nothing else changes them, or the error that takes their place. The
precision of settings that are returned is in range, and they are read back from their fields. -/
theorem ofValue_resolution (depths : Depths) :
    (∀ entries, ∃ counted, Counts entries counted) ∧
    (∀ v entries counted, v.opened = .mapping entries → Counts entries counted →
      ofValue depths v = resolve depths fun name =>
        (Value.entry? name counted).or (Value.entry? (camelCase name) counted)) ∧
    (∀ v v' entries entries' counted counted', v.opened = .mapping entries →
      v'.opened = .mapping entries' → Counts entries counted → Counts entries' counted' →
      (∀ key ∈ recognisedKeys, Value.entry? key counted = Value.entry? key counted') →
      ofValue depths v = ofValue depths v') ∧
    (∀ v v' entries entries', v.opened = .mapping entries → v'.opened = .mapping entries' →
      Relation.EqvGen Unnoticed entries entries' → ofValue depths v = ofValue depths v') ∧
    ∀ v s, ofValue depths v = .ok s →
      (0 ≤ s.precision ∧ s.precision ≤ 6) ∧ ofValue depths (.mapping s.fields) = .ok s := by
  refine ⟨exists_counts, fun v entries counted => ofValue_eq_resolve, ?_, ?_, fun v s h => ?_⟩
  · intro v v' entries entries' counted counted' hv hv' hcounts hcounts' hkeys
    rw [ofValue_eq_resolve hv hcounts, ofValue_eq_resolve hv' hcounts']
    refine resolve_congr depths fun name hname => ?_
    have hkey : ∀ key ∈ [name, camelCase name],
        Value.entry? key counted = Value.entry? key counted' :=
      fun key hkey => hkeys key (mem_recognisedKeys hname hkey)
    rw [given, given, hkey name (by simp), hkey (camelCase name) (by simp)]
  · intro v v' entries entries' hv hv' hchanges
    obtain ⟨counted, hcounts⟩ := exists_counts entries
    obtain ⟨counted', hcounts'⟩ := exists_counts entries'
    rw [ofValue_eq_resolve hv hcounts, ofValue_eq_resolve hv' hcounts', ← hcounts.effective_eq,
      ← hcounts'.effective_eq]
    exact resolve_congr depths fun name => given_eq_of_eqvGen hchanges
  · obtain ⟨hlow, hhigh⟩ := ofValue_range h
    exact ⟨⟨hlow, hhigh⟩, ofValue_fields hlow hhigh⟩

/-- A precision that is too high, and an opacity under a name in the second style. -/
theorem ofValue_resolution_opacity :
    let noted : List (Value × Value) :=
      [(.text "note".toList, .null), (.text "use_opacity".toList, .bool false),
       (.text "precision".toList, .int 9)]
    let plain : List (Value × Value) :=
      [(.text "precision".toList, .int 9), (.text "useOpacity".toList, .bool false)]
    Counts noted noted ∧ Relation.EqvGen Unnoticed noted plain ∧
      ofValue {} (.mapping noted) = ofValue {} (.mapping plain) ∧
      ofValue {} (.mapping noted) = .ok ⟨6, false, .oklch, false⟩ ∧
      ofValue {} (.mapping (fields ⟨6, false, .oklch, false⟩)) = .ok ⟨6, false, .oklch, false⟩ := by
  intro noted plain
  obtain ⟨-, hresolve, -, hunnoticed, hreturned⟩ := ofValue_resolution {}
  have hcounts : Counts noted noted := .whole fun v inner h => by cases h
  have hnote : ∀ w ∈ sectionKey :: recognisedKeys, Value.text "note".toList ≠ .text w := by
    rintro w hw ⟨⟩
    exact absurd hw (by decide)
  have hadded : Unnoticed noted.tail noted :=
    .whole (@Adjusts.unknown _ [] noted.tail _ .null hnote)
  have hrenamed : Unnoticed noted.tail plain.reverse :=
    .whole (@Adjusts.rename _ [] [(.text "precision".toList, .int 9)] _ (.bool false)
      (by decide : "use_opacity".toList ∈ settingNames) rfl rfl)
  have hdistinct : DistinctTexts plain.reverse := by
    refine List.pairwise_pair.mpr ?_
    rintro w ⟨⟩
    exact fun h => absurd (Value.text.inj h) (by decide)
  have hreordered : Unnoticed plain.reverse plain :=
    .whole (.reorder hdistinct (List.reverse_perm plain))
  have hchanges : Relation.EqvGen Unnoticed noted plain :=
    .trans _ _ _ (.symm _ _ (.rel _ _ hadded)) (.trans _ _ _ (.rel _ _ hrenamed)
      (.rel _ _ hreordered))
  have hsettings : ofValue {} (.mapping noted) = .ok ⟨6, false, .oklch, false⟩ :=
    (hresolve _ _ _ rfl hcounts).trans rfl
  exact ⟨hcounts, hchanges, hunnoticed _ _ _ _ rfl rfl hchanges, hsettings,
    (hreturned _ _ hsettings).2⟩

end Settings

end CssColor
