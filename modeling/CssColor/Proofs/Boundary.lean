import CssColor.Proofs.Region
import CssColor.Text.Blank

/-!
# Closed boundaries

A declaration depends on all the text behind it: the arguments of a call run to
a closing parenthesis, and the terminator may stand anywhere. A text that is
closed keeps its declarations to itself.

- `Closed`: nothing is open at the end of a text.
- `Settled`: the same of every rest of it, which is what the scan meets.
- `Settled.declares_of_append`: **no declaration crosses the boundary**. What
  starts in a settled text ends there, with its terminator.
- `find_append`, `convertWith_append`: the scan of two texts in one.
- `convert_append_of_closed`: what this means for the conversion of a text and
  of its parts.
-/

namespace CssColor

open Declaration Grammar

/-! ## Closed texts -/

/-- Each opening parenthesis is followed somewhere by a closing one. -/
def parenthesesClosed : Text → Bool
  | [] => true
  | c :: t => (c != '(' || t.contains ')') && parenthesesClosed t

/-- The last character that is not blank. -/
def lastVisible? (t : Text) : Option Char :=
  (t.filter fun c => !isBlank c).getLast?

/-- A text is empty, or it ends in a terminator, up to blanks, with no parenthesis open. -/
def Closed (t : Text) : Prop :=
  t = [] ∨
    (lastVisible? t = some ';' ∨ lastVisible? t = some '\x7d') ∧ parenthesesClosed t = true

instance (t : Text) : Decidable (Closed t) :=
  inferInstanceAs (Decidable (_ ∨ _))

/-- Behind each character of a text, blanks aside, stands a terminator, and behind each opening
parenthesis a closing one. -/
structure Settled (t : Text) : Prop where
  terminated : ∀ before c after, t = before ++ c :: after → isBlank c = false →
    isTerminated (c :: after) = true
  closed : ∀ before after, t = before ++ '(' :: after → ')' ∈ after

theorem Settled.of_append {before t : Text} (h : Settled (before ++ t)) : Settled t where
  terminated more c after heq :=
    h.terminated (before ++ more) c after (by rw [heq, List.append_assoc])
  closed more after heq := h.closed (before ++ more) after (by rw [heq, List.append_assoc])

theorem mem_of_parenthesesClosed {t before after : Text} (h : parenthesesClosed t = true)
    (heq : t = before ++ '(' :: after) : ')' ∈ after := by
  induction before generalizing t with
  | nil =>
    subst heq
    simpa [parenthesesClosed] using (Bool.and_eq_true_iff.mp h).1
  | cons c before ih =>
    subst heq
    exact ih (Bool.and_eq_true_iff.mp h).2 rfl

theorem Closed.settled {t : Text} (h : Closed t) : Settled t := by
  rcases h with rfl | ⟨hlast, hclosed⟩
  · refine ⟨fun before c after heq => ?_, fun before after heq => ?_⟩
    · exact absurd heq.symm (List.append_ne_nil_of_right_ne_nil before (List.cons_ne_nil _ _))
    · exact absurd heq.symm (List.append_ne_nil_of_right_ne_nil before (List.cons_ne_nil _ _))
  · refine ⟨fun before c after heq hc => ?_, fun _ _ => mem_of_parenthesesClosed hclosed⟩
    -- the last visible character of the text stands at this one or behind it
    have hvisible : (c :: after).filter (fun c => !isBlank c) =
        c :: after.filter (fun c => !isBlank c) :=
      List.filter_cons_of_pos (by rw [hc]; rfl)
    have hsame : lastVisible? t = lastVisible? (c :: after) := by
      rw [lastVisible?, lastVisible?, heq, List.filter_append, List.getLast?_append, hvisible,
        List.getLast?_cons, Option.some_or]
    have hmem : ∀ d, lastVisible? t = some d → d ∈ c :: after := by
      intro d hd
      rw [hsame] at hd
      exact (List.mem_filter.mp (List.mem_of_getLast? hd)).1
    rw [isTerminated, List.any_eq_true]
    rcases hlast with hlast | hlast
    · exact ⟨_, hmem _ hlast, rfl⟩
    · exact ⟨_, hmem _ hlast, rfl⟩

/-! ## No declaration crosses the boundary -/

/-- **No declaration crosses the boundary**: what starts in a settled text and more text ends in
the settled one, and is a declaration of it. -/
theorem Settled.declares_of_append {a b lead token rest : Text} (ha : Settled a) (hne : a ≠ [])
    (h : Declares lead token rest) (heq : a ++ b = lead ++ (token ++ rest)) :
    ∃ inside, Declares lead token inside ∧ a = lead ++ (token ++ inside) ∧
      rest = inside ++ b := by
  have hend : isTerminated a = true := by
    obtain ⟨c, more, hcons, hc⟩ := h.lead.exists_cons
    cases a with
    | nil => exact absurd rfl hne
    | cons d a =>
      rw [hcons] at heq
      obtain rfl := (List.cons.inj heq).1
      exact ha.terminated [] d a rfl (isBlank_eq_false_of_isNameChar hc)
  obtain ⟨fromToken, rfl, htail, hend'⟩ := split_of_isTerminated h.lead.isTerminated_eq_false hend heq
  -- a token without parentheses holds no terminator, so it ends where one is left
  have hword : isTerminated token = false → ∃ inside, Declares lead token inside ∧
      lead ++ fromToken = lead ++ (token ++ inside) ∧ rest = inside ++ b := by
    intro hfree
    obtain ⟨inside, rfl, rfl, hinside⟩ := split_of_isTerminated hfree hend' htail.symm
    refine ⟨inside, ⟨h.lead, h.token.congr_rest ?_, hinside⟩, rfl, rfl⟩
    exact head?_append_of_isTerminated hinside b
  rcases h.token with ⟨hname, -⟩ | ⟨⟨digits, -, hdigits, rfl⟩, -⟩ | ⟨name, args, hname, hargs, rfl⟩
  · exact hword (isTerminated_letters hname.letters)
  · refine hword ?_
    rw [isTerminated_cons, isTerminated_eq_false_of_class hdigits rfl rfl]
    rfl
  · -- the arguments end at the first closing parenthesis, and one stands in the settled text
    have hopen : isTerminated (name ++ ['(']) = false := by
      rw [isTerminated_append, isTerminated_letters hname.letters]
      rfl
    have hcall : fromToken ++ b = (name ++ ['(']) ++ (args ++ ')' :: rest) := by
      rw [← htail]
      simp
    obtain ⟨more, rfl, hmore, -⟩ := split_of_isTerminated hopen hend' hcall
    have hclose : ')' ∈ more := ha.closed (lead ++ name) more (by simp)
    obtain ⟨args', inside, rfl, hargs'⟩ := List.eq_append_cons_of_mem hclose
    rw [List.append_assoc, List.cons_append] at hmore
    obtain ⟨rfl, rfl⟩ := close_inj hargs hargs' hmore
    have hinside : isTerminated inside = true :=
      ha.terminated (lead ++ (name ++ '(' :: args)) ')' inside (by simp) (by decide)
    exact ⟨inside, ⟨h.lead, .call ⟨name, args, hname, hargs, rfl⟩, hinside⟩, by simp, rfl⟩

/-- The scan of a text takes the same steps when another text follows: where a declaration starts
in the one it starts in both, and it is the same. -/
inductive SameScan (b : Text) : Text → Prop where
  | nil : SameScan b []
  | skip {c : Char} {a : Text} (hno : ¬ StartsDeclaration (c :: a))
      (hno' : ¬ StartsDeclaration (c :: (a ++ b))) (ha : SameScan b a) : SameScan b (c :: a)
  | declaration {lead token rest : Text} (h : Declares lead token rest)
      (h' : Declares lead token (rest ++ b)) (ha : SameScan b rest) :
      SameScan b (lead ++ (token ++ rest))

theorem Settled.sameScan {a : Text} (ha : Settled a) (b : Text) : SameScan b a := by
  induction a using scanInduction with
  | nil => exact .nil
  | skip c a hno ih =>
    refine .skip hno ?_ (ih (@Settled.of_append [c] a ha))
    rintro ⟨lead, token, rest, h, heq⟩
    obtain ⟨inside, hinside, hsplit, -⟩ := ha.declares_of_append (List.cons_ne_nil c a) h heq
    exact hno ⟨lead, token, inside, hinside, hsplit⟩
  | declaration lead token rest h ih =>
    refine .declaration h (h.append b) (ih ?_)
    rw [← List.append_assoc] at ha
    exact ha.of_append

/-- The scan goes on behind the text as if it began there. -/
theorem SameScan.find_append {a b : Text} (ha : SameScan b a) :
    find (a ++ b) = find a ++ (find b).map (shift a.length) := by
  have hmoved : ∀ n m, ((find b).map (shift m)).map (shift n) = (find b).map (shift (m + n)) := by
    intro n m
    rw [List.map_map]
    exact congrArg (List.map · (find b)) (funext fun d => shift_shift _ _ d)
  induction ha with
  | nil => exact (List.map_id _).symm
  | @skip c a hno hno' ha ih =>
    rw [List.cons_append, find_cons hno', find_cons hno, ih, List.map_append, hmoved]
    rfl
  | @declaration lead token rest h h' ha ih =>
    rw [List.append_assoc, List.append_assoc, find_declaration h', find_declaration h, ih,
      List.map_append, hmoved, List.length_append, List.length_append, Nat.add_comm rest.length,
      Nat.add_assoc]
    rfl

/-- So does the conversion. -/
theorem SameScan.convertWith_append (f : TokenConverter) {a b : Text} (ha : SameScan b a) :
    convertWith f (a ++ b) = convertWith f a ++ convertWith f b := by
  induction ha with
  | nil => rw [convertWith_nil, List.nil_append, Result.unchanged_append]
  | skip hno hno' ha ih =>
    rw [List.cons_append, convertWith_cons f hno', convertWith_cons f hno, ih,
      Result.append_assoc]
  | declaration h h' ha ih =>
    rw [List.append_assoc, List.append_assoc, convertWith_declaration f h',
      convertWith_declaration f h, ih, Result.append_assoc]

/-! ## Texts side by side -/

/-- **Conversion is compositional at closed boundaries**, with every colour library. Behind a closed
text another text is scanned and converted as if it stood alone, and a closed part in between is
changed as a part just as it is changed with the whole. -/
theorem convert_append_of_closed (l : ColorLibrary) (o : Options) {a : Text} (ha : Closed a) :
    (∀ b, find (a ++ b) = find a ++ (find b).map (shift a.length) ∧
      (l.convert o (a ++ b)).output = (l.convert o a).output ++ (l.convert o b).output ∧
      (l.convert o (a ++ b)).editsApplied =
        (l.convert o a).editsApplied + (l.convert o b).editsApplied ∧
      (l.convert o (a ++ b)).errorColors =
        (l.convert o a).errorColors ++ (l.convert o b).errorColors) ∧
    ∀ r b, Closed r → r ≠ [] →
      l.convertRegion o (a ++ (r ++ b)) a.length (a.length + r.length) =
        { l.convert o r with output := a ++ ((l.convert o r).output ++ b) } ∧
      (l.convert o (a ++ (r ++ b))).output =
        (l.convert o a).output ++ ((l.convert o r).output ++ (l.convert o b).output) := by
  have hconvert : ∀ {a : Text}, Closed a → ∀ b,
      l.convert o (a ++ b) = l.convert o a ++ l.convert o b :=
    fun ha b => (ha.settled.sameScan b).convertWith_append (l.convertToken o)
  refine ⟨fun b => ⟨(ha.settled.sameScan b).find_append, ?_, ?_, ?_⟩, fun r b hr hne => ⟨?_, ?_⟩⟩
  · rw [hconvert ha, Result.output_append]
  · rw [hconvert ha, Result.editsApplied_append]
  · rw [hconvert ha, Result.errorColors_append]
  · exact convertRegion_middle l o a r b hne
  · rw [hconvert ha, hconvert hr, Result.output_append, Result.output_append]

/-- Two rules of a stylesheet with a line break between them, and an open call behind them. -/
theorem convert_append_of_closed_rules :
    let a := "p \x7b color: rgb(1 2 3); \x7d\n".toList
    let r := "a \x7b fill: #000 \x7d".toList
    let b := "b \x7b color: rgb(".toList
    Closed a ∧ Closed r ∧ r ≠ [] ∧
      find (a ++ b) = find a ++ (find b).map (shift a.length) ∧
      convertRegion {} (a ++ (r ++ b)) a.length (a.length + r.length) =
        { convert {} r with output := a ++ ((convert {} r).output ++ b) } := by
  have ha : Closed "p \x7b color: rgb(1 2 3); \x7d\n".toList := by decide +kernel
  have hr : Closed "a \x7b fill: #000 \x7d".toList := by decide +kernel
  have hne : "a \x7b fill: #000 \x7d".toList ≠ [] := by decide +kernel
  exact ⟨ha, hr, hne, ((convert_append_of_closed .own {} ha).1 _).1,
    ((convert_append_of_closed .own {} ha).2 _ _ hr hne).1⟩

end CssColor
