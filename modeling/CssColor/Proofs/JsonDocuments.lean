import CssColor.Proofs.JsonScalars

/-!
# Written documents are read back

- `Json.Plain`: documents without doubles, in which no whole number is too long and
  no object has two members of one name.
- `Json.Separators.AreBlank`: between the parts of a document nothing but blanks
  stands, and one comma between two parts.
- `Json.ReadsBack`: a document is read back wherever it is written.
- `Json.Plain.readsBack`: **plain documents are read back**, whatever the
  separators and whatever follows.
- `Json.Plain.write_eq`, `Json.Plain.read?_layOut`: they are written, and read back
  from whole texts.

The reader takes one of its fuel for every document and for every part, and each
of these is written with one character at least, so that twice the length of the
text is enough.
-/

namespace CssColor

namespace Json

open Text (joined)

/-! ## Blanks -/

section Blanks

variable {blanks rest : Text} {c : Char}

theorem skipBlanks_append (h : ∀ c ∈ blanks, isBlank c = true) (t : Text) :
    skipBlanks (blanks ++ t) = skipBlanks t :=
  List.dropWhile_append_of_pos h

theorem skipBlanks_cons (h : isBlank c = false) (t : Text) : skipBlanks (c :: t) = c :: t :=
  List.dropWhile_cons_of_neg (by simp [h])

/-- No blank goes on with a number. -/
theorem endsNumber_append (h : ∀ c ∈ blanks, isBlank c = true) (hrest : EndsNumber rest) :
    EndsNumber (blanks ++ rest) := by
  cases blanks with
  | nil => exact hrest
  | cons c more =>
    have hc := h c List.mem_cons_self
    simp only [isBlank, Bool.or_eq_true, beq_iff_eq] at hc
    obtain ((rfl | rfl) | rfl) | rfl := hc
    · exact endsNumber_cons (by decide)
    · exact endsNumber_cons (by decide)
    · exact endsNumber_cons (by decide)
    · exact endsNumber_cons (by decide)

/-- What a part of a list or an object starts with: neither a blank nor a closing bracket. -/
def StartsPart (t : Text) : Prop :=
  ∃ c more, t = c :: more ∧ isBlank c = false ∧ c ≠ ']' ∧ c ≠ '\x7d'

theorem StartsPart.append {t : Text} (h : StartsPart t) (u : Text) : StartsPart (t ++ u) := by
  obtain ⟨c, more, rfl, hblank, hclose⟩ := h
  exact ⟨c, more ++ u, rfl, hblank, hclose⟩

theorem StartsPart.skipBlanks {t : Text} (h : StartsPart t) : skipBlanks t = t := by
  obtain ⟨c, more, rfl, hblank, -, -⟩ := h
  exact skipBlanks_cons hblank more

theorem StartsPart.length_pos {t : Text} (h : StartsPart t) : 0 < t.length := by
  obtain ⟨c, more, rfl, -, -, -⟩ := h
  exact Nat.succ_pos _

end Blanks

/-- Separators that are blank but for the comma. -/
structure Separators.AreBlank (s : Separators) : Prop where
  opening : ∀ c ∈ s.opening, isBlank c = true
  between : ∃ blanks, s.between = ',' :: blanks ∧ ∀ c ∈ blanks, isBlank c = true
  closing : ∀ c ∈ s.closing, isBlank c = true

section Steps

variable {limit : DigitLimit} {fuel : Nat} {blanks t more left : Text} {item value : Json}
  {name : Text} {before : List (Text × Json)}

theorem ne_of_numeral {c d : Char} (hc : isAsciiDigit c = true ∨ c = '-')
    (hdigit : isAsciiDigit d = false) (hsign : d ≠ '-') : c ≠ d := by
  rintro rfl
  rcases hc with hc | hc
  · rw [hdigit] at hc
    cases hc
  · exact hsign hc

theorem startsPart_of_numeral {c : Char} (hc : isAsciiDigit c = true ∨ c = '-') (more : Text) :
    StartsPart (c :: more) := by
  refine ⟨c, more, rfl, ?_, ne_of_numeral hc rfl (by decide), ne_of_numeral hc rfl (by decide)⟩
  simp only [isBlank, Bool.or_eq_false_iff, beq_eq_false_iff_ne]
  exact ⟨⟨⟨ne_of_numeral hc rfl (by decide), ne_of_numeral hc rfl (by decide)⟩,
    ne_of_numeral hc rfl (by decide)⟩, ne_of_numeral hc rfl (by decide)⟩

/-- What starts with a digit or a sign is a number. -/
theorem value?_of_numeral {c : Char} (hc : isAsciiDigit c = true ∨ c = '-') (fuel : Nat)
    (t : Text) : value? limit (fuel + 1) (c :: t) = number? limit (c :: t) := by
  rw [value?.eq_def]
  dsimp only
  split
  · rename_i heq
    cases heq
    exact absurd rfl (ne_of_numeral hc (d := 'n') rfl (by decide))
  · rename_i heq
    cases heq
    exact absurd rfl (ne_of_numeral hc (d := 't') rfl (by decide))
  · rename_i heq
    cases heq
    exact absurd rfl (ne_of_numeral hc (d := 'f') rfl (by decide))
  · rename_i heq
    cases heq
    exact absurd rfl (ne_of_numeral hc (d := '"') rfl (by decide))
  · rename_i heq
    cases heq
    exact absurd rfl (ne_of_numeral hc (d := '[') rfl (by decide))
  · rename_i heq
    cases heq
    exact absurd rfl (ne_of_numeral hc (d := '\x7b') rfl (by decide))
  · rfl

/-- A list whose first item follows. -/
theorem value?_array (hblanks : ∀ c ∈ blanks, isBlank c = true) (ht : StartsPart t) :
    value? limit (fuel + 1) ('[' :: (blanks ++ t)) =
      (items? limit fuel t).map fun (items, left) => (array items, left) := by
  have hskip : skipBlanks (blanks ++ t) = t := by
    rw [skipBlanks_append hblanks, ht.skipBlanks]
  obtain ⟨c, more, rfl, -, hclose, -⟩ := ht
  rw [value?, hskip]
  split
  · rename_i heq
    cases heq
    exact absurd rfl hclose
  · rfl

/-- An object whose first member follows. -/
theorem value?_object (hblanks : ∀ c ∈ blanks, isBlank c = true) (ht : StartsPart t) :
    value? limit (fuel + 1) ('\x7b' :: (blanks ++ t)) =
      (members? limit fuel [] t).map fun (members, left) => (object members, left) := by
  have hskip : skipBlanks (blanks ++ t) = t := by
    rw [skipBlanks_append hblanks, ht.skipBlanks]
  obtain ⟨c, more, rfl, -, -, hclose⟩ := ht
  rw [value?, hskip]
  split
  · rename_i heq
    cases heq
    exact absurd rfl hclose
  · rfl

/-- An item before a comma. -/
theorem items?_more (hitem : value? limit fuel t = some (item, ',' :: more)) :
    items? limit (fuel + 1) t =
      (items? limit fuel (skipBlanks more)).map fun (items, left) => (item :: items, left) := by
  rw [items?, hitem]
  rfl

/-- The last item. -/
theorem items?_last (hblanks : ∀ c ∈ blanks, isBlank c = true)
    (hitem : value? limit fuel t = some (item, blanks ++ ']' :: left)) :
    items? limit (fuel + 1) t = some ([item], left) := by
  rw [items?, hitem]
  dsimp only
  rw [skipBlanks_append hblanks, skipBlanks_cons rfl]
  rfl

/-- A member's name is read, and then what stands behind the colon. -/
theorem members?_name (name : Text)
    (hvalue : value? limit fuel (skipBlanks t) = some (value, more)) :
    members? limit (fuel + 1) before (stringText name ++ (": ".toList ++ t)) =
      match skipBlanks more with
      | ',' :: more => members? limit fuel (setMember name value before) (skipBlanks more)
      | '\x7d' :: left => some (setMember name value before, left)
      | _ => none := by
  have hname : stringBody? (name.flatMap escapeChar ++ '"' :: ':' :: ' ' :: t) =
      some (name, ':' :: ' ' :: t) := stringBody?_flatMap name _
  have hcolon : skipBlanks (':' :: ' ' :: t) = ':' :: ' ' :: t := skipBlanks_cons rfl _
  have hblank : skipBlanks (' ' :: t) = skipBlanks t := rfl
  rw [stringText, List.cons_append, List.append_assoc]
  show members? limit (fuel + 1) before
    ('"' :: (name.flatMap escapeChar ++ '"' :: ':' :: ' ' :: t)) = _
  rw [members?, hname]
  dsimp only
  rw [hcolon]
  split
  · rename_i heq
    cases heq
    rewrite [hblank, hvalue]
    rfl
  · rename_i hother
    exact (hother _ rfl).elim

end Steps

/-- A new name is added behind the others. -/
theorem setMember_of_notMem {name : Text} (value : Json) {members : List (Text × Json)}
    (h : name ∉ members.map Prod.fst) :
    setMember name value members = members ++ [(name, value)] := by
  induction members with
  | nil => rfl
  | cons member rest ih =>
    rw [List.map_cons, List.mem_cons, not_or] at h
    rw [setMember, if_neg (Ne.symm h.1), ih h.2]
    rfl

/-! ## Parts -/

section Parts

variable {limit : DigitLimit} {layout : Nat → Separators} {s : Separators} {depth fuel : Nat}

/-- The first of several parts and what stands between it and the next. -/
theorem joined_append {blanks : Text} (hbetween : s.between = ',' :: blanks) (t u : Text)
    (others : List Text) (tail : Text) :
    joined s.between (t :: u :: others) ++ tail =
      t ++ ',' :: (blanks ++ (joined s.between (u :: others) ++ tail)) := by
  rw [joined, hbetween]
  simp only [List.append_assoc, List.cons_append]

theorem length_joined (hs : s.AreBlank) (t u : Text) (others : List Text) :
    t.length + 1 + (joined s.between (u :: others)).length ≤
      (joined s.between (t :: u :: others)).length := by
  obtain ⟨blanks, hbetween, -⟩ := hs.between
  rw [joined, hbetween]
  simp only [List.length_append, List.length_cons]
  omega

/-- How a document is read back where it is written, whatever follows that is not more of a
number. -/
structure ReadsBack (limit : DigitLimit) (layout : Nat → Separators) (j : Json) : Prop where
  starts : ∀ depth, StartsPart (layOut layout depth j)
  value : ∀ depth fuel rest, 2 * (layOut layout depth j).length ≤ fuel → EndsNumber rest →
    value? limit fuel (layOut layout depth j ++ rest) = some (j, rest)

/-- A member as it is written. -/
def memberText (layout : Nat → Separators) (depth : Nat) (member : Text × Json) : Text :=
  stringText member.1 ++ ": ".toList ++ layOut layout depth member.2

theorem layOutItems_eq_map (items : List Json) :
    layOutItems layout depth items = items.map (layOut layout depth) := by
  induction items with
  | nil => rfl
  | cons item items ih => rw [layOutItems, ih, List.map_cons]

theorem layOutMembers_eq_map (members : List (Text × Json)) :
    layOutMembers layout depth members = members.map (memberText layout depth) := by
  induction members with
  | nil => rfl
  | cons member members ih =>
    obtain ⟨name, value⟩ := member
    rw [layOutMembers, ih, List.map_cons, memberText]

theorem length_memberText (layout : Nat → Separators) (depth : Nat) (member : Text × Json) :
    (layOut layout depth member.2).length ≤ (memberText layout depth member).length := by
  rw [memberText, List.length_append]
  exact Nat.le_add_left _ _

theorem starts_joined (separator : Text) {t : Text} (ht : StartsPart t) (rest : List Text) :
    StartsPart (joined separator (t :: rest)) := by
  cases rest with
  | nil => exact ht
  | cons u rest => exact (ht.append separator).append _

theorem starts_memberText (layout : Nat → Separators) (depth : Nat) (member : Text × Json) :
    StartsPart (memberText layout depth member) :=
  ⟨'"', _, rfl, rfl, by decide, by decide⟩

/-- A member is read back, and then what follows it. -/
theorem ReadsBack.members?_append {member : Text × Json} (h : ReadsBack limit layout member.2)
    (hfuel : 2 * (layOut layout depth member.2).length ≤ fuel) {tail : Text}
    (htail : EndsNumber tail) (before : List (Text × Json)) :
    members? limit (fuel + 1) before (memberText layout depth member ++ tail) =
      match skipBlanks tail with
      | ',' :: more => members? limit fuel (setMember member.1 member.2 before) (skipBlanks more)
      | '\x7d' :: left => some (setMember member.1 member.2 before, left)
      | _ => none := by
  have hread := h.value depth fuel tail hfuel htail
  rw [← ((h.starts depth).append tail).skipBlanks] at hread
  rw [memberText, List.append_assoc, List.append_assoc, members?_name member.1 hread]

/-- A member before a comma. -/
theorem ReadsBack.members?_more {member : Text × Json} (h : ReadsBack limit layout member.2)
    (hfuel : 2 * (layOut layout depth member.2).length ≤ fuel) {before : List (Text × Json)}
    {more : Text} :
    members? limit (fuel + 1) before (memberText layout depth member ++ ',' :: more) =
      members? limit fuel (setMember member.1 member.2 before) (skipBlanks more) := by
  rw [h.members?_append hfuel (endsNumber_cons (by decide)), skipBlanks_cons rfl]
  rfl

/-- The last member. -/
theorem ReadsBack.members?_last {member : Text × Json} (h : ReadsBack limit layout member.2)
    (hfuel : 2 * (layOut layout depth member.2).length ≤ fuel) {before : List (Text × Json)}
    {blanks left : Text} (hblanks : ∀ c ∈ blanks, isBlank c = true) :
    members? limit (fuel + 1) before
        (memberText layout depth member ++ (blanks ++ '\x7d' :: left)) =
      some (setMember member.1 member.2 before, left) := by
  rw [h.members?_append hfuel (endsNumber_append hblanks (endsNumber_cons (by decide))),
    skipBlanks_append hblanks, skipBlanks_cons rfl]
  rfl

theorem enclose_append (s : Separators) (left right : Char) (part : Text) (parts : List Text)
    (rest : Text) :
    s.enclose left right (part :: parts) ++ rest = left :: (s.opening ++
      (joined s.between (part :: parts) ++ (s.closing ++ right :: rest))) := by
  simp [Separators.enclose]

theorem length_enclose (s : Separators) (left right : Char) (part : Text) (parts : List Text) :
    (joined s.between (part :: parts)).length + 2 ≤
      (s.enclose left right (part :: parts)).length := by
  simp only [Separators.enclose, List.isEmpty_cons, Bool.false_eq_true, if_false,
    List.length_cons, List.length_append]
  omega

theorem exists_enclose (s : Separators) (left right : Char) (parts : List Text) :
    ∃ more, s.enclose left right parts = left :: more := by
  rw [Separators.enclose]
  split
  · exact ⟨_, rfl⟩
  · exact ⟨_, rfl⟩

/-- **The items of a list are read back** if each of them is. -/
theorem items?_joined (hs : s.AreBlank) {items : List Json} (hne : items ≠ [])
    (hitems : ∀ item ∈ items, ReadsBack limit layout item) (depth fuel : Nat) (rest : Text)
    (hfuel : 2 * (joined s.between (items.map (layOut layout depth))).length + 1 ≤ fuel) :
    items? limit fuel
        (joined s.between (items.map (layOut layout depth)) ++ (s.closing ++ ']' :: rest)) =
      some (items, rest) := by
  obtain ⟨blanks, hbetween, hblanks⟩ := hs.between
  induction items generalizing fuel with
  | nil => exact absurd rfl hne
  | cons item items ih =>
    obtain ⟨fuel, rfl⟩ : ∃ f, fuel = f + 1 := ⟨fuel - 1, by omega⟩
    obtain ⟨hitem, hitems⟩ := List.forall_mem_cons.mp hitems
    cases items with
    | nil =>
      have hlength : 2 * (layOut layout depth item).length + 1 ≤ fuel + 1 := hfuel
      exact items?_last hs.closing (hitem.value depth fuel _ (by omega)
        (endsNumber_append hs.closing (endsNumber_cons (by decide))))
    | cons next others =>
      rw [List.map_cons, List.map_cons] at hfuel ⊢
      have hlength := length_joined hs (layOut layout depth item) (layOut layout depth next)
        (others.map (layOut layout depth))
      have hothers := ih (List.cons_ne_nil _ _) hitems fuel (by
        rw [List.map_cons]
        omega)
      rw [List.map_cons] at hothers
      have hstarts := starts_joined s.between
        ((hitems next List.mem_cons_self).starts depth) (others.map (layOut layout depth))
      have hread := hitem.value depth fuel (',' :: (blanks ++ (joined s.between
        (layOut layout depth next :: others.map (layOut layout depth)) ++
          (s.closing ++ ']' :: rest)))) (by omega) (endsNumber_cons (by decide))
      rw [joined_append hbetween, items?_more hread, skipBlanks_append hblanks,
        (hstarts.append _).skipBlanks, hothers]
      rfl

/-- **The members of an object are read back** behind those before, if each value is and no name
comes twice. -/
theorem members?_joined (hs : s.AreBlank) {members : List (Text × Json)} (hne : members ≠ [])
    (hmembers : ∀ member ∈ members, ReadsBack limit layout member.2) (before : List (Text × Json))
    (hnames : ((before ++ members).map Prod.fst).Nodup) (depth fuel : Nat) (rest : Text)
    (hfuel : 2 * (joined s.between (members.map (memberText layout depth))).length + 1 ≤ fuel) :
    members? limit fuel before
        (joined s.between (members.map (memberText layout depth)) ++
          (s.closing ++ '\x7d' :: rest)) =
      some (before ++ members, rest) := by
  obtain ⟨blanks, hbetween, hblanks⟩ := hs.between
  induction members generalizing fuel before with
  | nil => exact absurd rfl hne
  | cons member members ih =>
    obtain ⟨fuel, rfl⟩ : ∃ f, fuel = f + 1 := ⟨fuel - 1, by omega⟩
    obtain ⟨hvalue, hmembers⟩ := List.forall_mem_cons.mp hmembers
    have hwritten := length_memberText layout depth member
    have hset : setMember member.1 member.2 before = before ++ [member] := by
      refine setMember_of_notMem member.2 fun hname => ?_
      rw [List.map_append, List.nodup_append] at hnames
      exact hnames.2.2 member.1 hname member.1 List.mem_cons_self rfl
    have hall : before ++ member :: members = before ++ [member] ++ members := by
      rw [List.append_assoc, List.singleton_append]
    cases members with
    | nil =>
      have hlength : 2 * (memberText layout depth member).length + 1 ≤ fuel + 1 := hfuel
      rw [← hset]
      exact hvalue.members?_last (by omega) hs.closing
    | cons next others =>
      rw [List.map_cons, List.map_cons] at hfuel ⊢
      have hlength := length_joined hs (memberText layout depth member)
        (memberText layout depth next) (others.map (memberText layout depth))
      have hothers := ih (List.cons_ne_nil _ _) hmembers _ (hall ▸ hnames) fuel (by
        rw [List.map_cons]
        omega)
      rw [List.map_cons] at hothers
      have hstarts := starts_joined s.between
        (starts_memberText layout depth next) (others.map (memberText layout depth))
      rw [joined_append hbetween, hvalue.members?_more (by omega), hset, skipBlanks_append hblanks,
        (hstarts.append _).skipBlanks, hothers, hall]

end Parts

/-! ## Documents -/

/-- A document without doubles in which no whole number has more digits than a limit, and no object
two members of one name. -/
inductive Plain (limit : DigitLimit) : Json → Prop
  | null : Plain limit null
  | bool (b : Bool) : Plain limit (bool b)
  | int {n : Int} (hn : limit.check n = .ok ()) : Plain limit (int n)
  | string (t : Text) : Plain limit (string t)
  | array {items : List Json} (hitems : ∀ item ∈ items, Plain limit item) :
      Plain limit (array items)
  | object {members : List (Text × Json)} (hnames : (members.map Prod.fst).Nodup)
      (hmembers : ∀ member ∈ members, Plain limit member.2) : Plain limit (object members)

section Documents

variable {limit : DigitLimit} {layout : Nat → Separators}

/-- The reader takes a document with one of its fuel, and its parts with the rest. -/
theorem readsBack_of_succ {j : Json} (hstarts : ∀ depth, StartsPart (layOut layout depth j))
    (hvalue : ∀ depth fuel rest, 2 * (layOut layout depth j).length ≤ fuel + 1 → EndsNumber rest →
      value? limit (fuel + 1) (layOut layout depth j ++ rest) = some (j, rest)) :
    ReadsBack limit layout j where
  starts := hstarts
  value := by
    intro depth fuel rest hfuel hrest
    have hpos := (hstarts depth).length_pos
    obtain ⟨fuel, rfl⟩ : ∃ f, fuel = f + 1 := ⟨fuel - 1, by omega⟩
    exact hvalue depth fuel rest hfuel hrest

theorem readsBack_int {n : Int} (hn : limit.check n = .ok ()) :
    ReadsBack limit layout (int n) := by
  obtain ⟨c, more, htext, hc⟩ := exists_intText n
  apply readsBack_of_succ
  · intro depth
    rw [layOut, htext]
    exact startsPart_of_numeral hc more
  · intro depth fuel rest _ hrest
    have hread : number? limit (intText n ++ rest) = some (int n, rest) := by
      rw [number?_intText n hrest, hn]
      rfl
    rw [layOut]
    rw [htext] at hread ⊢
    exact (value?_of_numeral hc fuel (more ++ rest)).trans hread

theorem readsBack_string (t : Text) : ReadsBack limit layout (string t) := by
  apply readsBack_of_succ
  · intro depth
    exact ⟨'"', _, rfl, rfl, by decide, by decide⟩
  · intro depth fuel rest _ _
    rw [layOut, stringText, List.cons_append, List.append_assoc, List.singleton_append, value?,
      stringBody?_flatMap]
    rfl

theorem readsBack_array (hlayout : ∀ depth, (layout depth).AreBlank) {items : List Json}
    (hitems : ∀ item ∈ items, ReadsBack limit layout item) :
    ReadsBack limit layout (array items) := by
  apply readsBack_of_succ
  · intro depth
    obtain ⟨more, hmore⟩ :=
      exists_enclose (layout depth) '[' ']' (layOutItems layout (depth + 1) items)
    exact ⟨'[', more, hmore, rfl, by decide, by decide⟩
  · intro depth fuel rest hfuel _
    cases items with
    | nil => rfl
    | cons item items =>
      rw [layOut, layOutItems_eq_map] at hfuel ⊢
      have hlength := length_enclose (layout depth) '[' ']' (layOut layout (depth + 1) item)
        (items.map (layOut layout (depth + 1)))
      have hread := items?_joined (hlayout depth) (List.cons_ne_nil _ _) hitems (depth + 1) fuel
        rest (by
          rw [List.map_cons] at hfuel ⊢
          omega)
      have hstarts := starts_joined (layout depth).between
        ((hitems item List.mem_cons_self).starts (depth + 1))
        (items.map (layOut layout (depth + 1)))
      rw [List.map_cons] at hread ⊢
      rw [enclose_append, value?_array (hlayout depth).opening (hstarts.append _), hread]
      rfl

theorem readsBack_object (hlayout : ∀ depth, (layout depth).AreBlank)
    {members : List (Text × Json)} (hnames : (members.map Prod.fst).Nodup)
    (hmembers : ∀ member ∈ members, ReadsBack limit layout member.2) :
    ReadsBack limit layout (object members) := by
  apply readsBack_of_succ
  · intro depth
    obtain ⟨more, hmore⟩ :=
      exists_enclose (layout depth) '\x7b' '\x7d' (layOutMembers layout (depth + 1) members)
    exact ⟨'\x7b', more, hmore, rfl, by decide, by decide⟩
  · intro depth fuel rest hfuel _
    cases members with
    | nil => rfl
    | cons member members =>
      rw [layOut, layOutMembers_eq_map] at hfuel ⊢
      have hlength := length_enclose (layout depth) '\x7b' '\x7d'
        (memberText layout (depth + 1) member) (members.map (memberText layout (depth + 1)))
      have hread := members?_joined (hlayout depth) (List.cons_ne_nil _ _) hmembers
        [] hnames (depth + 1) fuel rest (by
          rw [List.map_cons] at hfuel ⊢
          omega)
      have hstarts := starts_joined (layout depth).between
        (starts_memberText layout (depth + 1) member) (members.map (memberText layout (depth + 1)))
      rw [List.map_cons] at hread ⊢
      rw [enclose_append, value?_object (hlayout depth).opening (hstarts.append _), hread]
      rfl

/-- **Plain documents are read back.** -/
theorem Plain.readsBack (hlayout : ∀ depth, (layout depth).AreBlank) {j : Json}
    (hj : Plain limit j) : ReadsBack limit layout j := by
  induction hj with
  | null =>
    refine readsBack_of_succ (fun _ => ⟨'n', _, rfl, rfl, by decide, by decide⟩) ?_
    intro depth fuel rest _ _
    rfl
  | bool b =>
    cases b with
    | true =>
      refine readsBack_of_succ (fun _ => ⟨'t', _, rfl, rfl, by decide, by decide⟩) ?_
      intro depth fuel rest _ _
      rfl
    | false =>
      refine readsBack_of_succ (fun _ => ⟨'f', _, rfl, rfl, by decide, by decide⟩) ?_
      intro depth fuel rest _ _
      rfl
  | int hn => exact readsBack_int hn
  | string t => exact readsBack_string t
  | array _ ih => exact readsBack_array hlayout ih
  | object hnames _ ih => exact readsBack_object hlayout hnames ih

/-- **A plain document is the whole of what is laid out for it.** -/
theorem Plain.read?_layOut (hlayout : ∀ depth, (layout depth).AreBlank) {j : Json}
    (hj : Plain limit j) (depth : Nat) : read? limit (layOut layout depth j) = some j := by
  have h := hj.readsBack hlayout
  have hread := h.value depth (2 * (layOut layout depth j).length + 2) [] (by omega)
    endsNumber_nil
  rw [List.append_nil] at hread
  rw [read?, (h.starts depth).skipBlanks, hread]
  rfl

end Documents

/-! ## Limits -/

section Limits

variable {limit : DigitLimit}

theorem checkItems_eq_ok {items : List Json} (h : ∀ item ∈ items, item.check limit = .ok ()) :
    checkItems limit items = .ok () := by
  induction items with
  | nil => rfl
  | cons item items ih =>
    obtain ⟨hitem, hitems⟩ := List.forall_mem_cons.mp h
    rw [checkItems, hitem]
    exact ih hitems

theorem checkMembers_eq_ok {members : List (Text × Json)}
    (h : ∀ member ∈ members, member.2.check limit = .ok ()) :
    checkMembers limit members = .ok () := by
  induction members with
  | nil => rfl
  | cons member members ih =>
    obtain ⟨hmember, hmembers⟩ := List.forall_mem_cons.mp h
    rw [checkMembers, hmember]
    exact ih hmembers

theorem Plain.check_eq_ok {j : Json} (hj : Plain limit j) : j.check limit = .ok () := by
  induction hj with
  | null => rfl
  | bool _ => rfl
  | int hn => exact hn
  | string _ => rfl
  | array _ ih => exact checkItems_eq_ok ih
  | object _ _ ih => exact checkMembers_eq_ok ih

/-- **A plain document is written.** -/
theorem Plain.write_eq (layout : Nat → Separators) {j : Json} (hj : Plain limit j) :
    j.write limit layout = .ok (j.layOut layout 0) := by
  rw [write, hj.check_eq_ok]
  rfl

end Limits

end Json

end CssColor
