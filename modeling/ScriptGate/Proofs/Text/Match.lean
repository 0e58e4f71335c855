/-
  ScriptGate.Proofs.Text.Match — what a pattern matches, apart from how it is looked for.

  The matcher tries one way after the other and goes on with the first that succeeds.  Whether a
  pattern occurs does not depend on the order: it does if there is any way at all from one place of
  the text to another.  Such a way is still there when the text stands in a longer one, as long as
  no word goes on at its ends.
  Main statements:
    - `isSome_step`       — the matcher succeeds if there is a way and its continuation succeeds
                            behind it;
    - `occurs_iff_spans`  — a pattern occurs in a text if it spans the text between two places;
    - `occurs_within`     — what occurs in a text occurs in every text around it.
-/
import ScriptGate.Text.Pattern

namespace ScriptGate.Text.Pattern

/-! ## §1. Ways through a text -/

/-- Between the two places of a text lies `taken`. -/
structure Place.Passed (p q : Place) (taken : List Char) : Prop where
  ahead : p.ahead = taken ++ q.ahead
  before : q.before = taken.getLast?.or p.before

theorem passed_nil {p q : Place} : p.Passed q [] ↔ p = q := by
  constructor
  · rintro ⟨hahead, hbefore⟩
    cases p
    cases q
    exact congr (congrArg Place.mk hbefore.symm) hahead
  · rintro rfl
    exact ⟨rfl, rfl⟩

/-- The character just passed, with one more in front. -/
theorem getLast?_cons_or (c : Char) (rest : List Char) (before : Option Char) :
    (c :: rest).getLast?.or before = rest.getLast?.or (some c) := by
  rw [List.getLast?_cons]
  cases rest.getLast? <;> rfl

theorem passed_cons {before : Option Char} {c : Char} {rest : List Char} {q : Place} {d : Char}
    {taken : List Char} : (Place.mk before (c :: rest)).Passed q (d :: taken) ↔
      d = c ∧ (Place.mk (some c) rest).Passed q taken := by
  constructor
  · rintro ⟨hahead, hbefore⟩
    obtain ⟨rfl, hrest⟩ := List.cons.inj hahead
    exact ⟨rfl, hrest, hbefore.trans (getLast?_cons_or c taken before)⟩
  · rintro ⟨rfl, hahead, hbefore⟩
    exact ⟨congrArg (d :: ·) hahead, hbefore.trans (getLast?_cons_or d taken before).symm⟩

/-- Between the two places lies a run of at least `least` characters of a class. -/
def Place.Run (inClass : Char → Bool) (least : Nat) (p q : Place) : Prop :=
  ∃ taken, taken.all inClass = true ∧ least ≤ taken.length ∧ p.Passed q taken

theorem run_nil {inClass : Char → Bool} {least : Nat} {before : Option Char} {q : Place} :
    (Place.mk before []).Run inClass least q ↔ least = 0 ∧ q = ⟨before, []⟩ := by
  constructor
  · rintro ⟨taken, _, hleast, hpassed⟩
    cases taken with
    | nil => exact ⟨Nat.eq_zero_of_le_zero hleast, (passed_nil.1 hpassed).symm⟩
    | cons d taken => exact absurd hpassed.ahead.symm (List.cons_ne_nil _ _)
  · rintro ⟨rfl, rfl⟩
    exact ⟨[], rfl, Nat.le_refl 0, passed_nil.2 rfl⟩

/-- A run ends at once, or it goes on with the next character. -/
theorem run_cons {inClass : Char → Bool} {least : Nat} {before : Option Char} {c : Char}
    {rest : List Char} {q : Place} :
    (Place.mk before (c :: rest)).Run inClass least q ↔
      least = 0 ∧ q = ⟨before, c :: rest⟩ ∨
        inClass c = true ∧ (Place.mk (some c) rest).Run inClass (least - 1) q := by
  constructor
  · rintro ⟨taken, hall, hleast, hpassed⟩
    cases taken with
    | nil => exact .inl ⟨Nat.eq_zero_of_le_zero hleast, (passed_nil.1 hpassed).symm⟩
    | cons d taken =>
      obtain ⟨rfl, hrest⟩ := passed_cons.1 hpassed
      rw [List.all_cons, Bool.and_eq_true] at hall
      exact .inr ⟨hall.1, taken, hall.2, Nat.sub_le_of_le_add hleast, hrest⟩
  · rintro (⟨rfl, rfl⟩ | ⟨hc, taken, hall, hleast, hpassed⟩)
    · exact ⟨[], rfl, Nat.le_refl 0, passed_nil.2 rfl⟩
    · refine ⟨c :: taken, ?_, Nat.le_add_of_sub_le hleast, passed_cons.2 ⟨rfl, hpassed⟩⟩
      rw [List.all_cons, hc, hall]
      rfl

/-- The pattern matches what lies between the two places, in one way or another. -/
def Spans : Pattern → Place → Place → Prop
  | here, p, q => p = q
  | one inClass, p, q => ∃ c, inClass c = true ∧ p.Passed q [c]
  | run least inClass, p, q => p.Run inClass least q
  | shortRun inClass, p, q => p.Run inClass 0 q
  | wordEdge, p, q => p.isWordEdge = true ∧ p = q
  | front, p, q => p.before = none ∧ p = q
  | seq a b, p, q => ∃ r, a.Spans p r ∧ b.Spans r q
  | alt a b, p, q => a.Spans p q ∨ b.Spans p q
  | group a, p, q => a.Spans p q

/-! ## §2. The matcher -/

theorem isSome_guard {α : Type} {P : Prop} [Decidable P] {o : Option α} :
    (if P then o else none).isSome = true ↔ P ∧ o.isSome = true := by
  split <;> simp_all

section

variable {α : Type} {inClass : Char → Bool} {k : Place → Option α}

/-- The longest run is tried first, and the shorter ones behind it. -/
theorem isSome_longest {ahead : List Char} : ∀ {least : Nat} {before : Option Char},
    (longest inClass k least before ahead).isSome = true ↔
      ∃ q, (Place.mk before ahead).Run inClass least q ∧ (k q).isSome = true := by
  induction ahead with
  | nil =>
    intro least before
    simp only [longest, run_nil, isSome_guard, and_assoc, exists_and_left, exists_eq_left]
  | cons c rest ih =>
    intro least before
    simp only [run_cons, or_and_right, exists_or, and_assoc, exists_and_left, exists_eq_left]
    rw [longest]
    -- the run goes on where it can, and it may end here once it is long enough
    by_cases hc : inClass c = true
    · rw [if_pos hc, Option.isSome_or, Bool.or_eq_true, ih, isSome_guard, or_comm]
      simp only [hc, true_and]
    · rw [if_neg hc, isSome_guard]
      simp only [hc, Bool.false_eq_true, false_and, or_false]

/-- The shortest run is tried first, and the longer ones behind it. -/
theorem isSome_shortest {ahead : List Char} : ∀ {before : Option Char},
    (shortest inClass k before ahead).isSome = true ↔
      ∃ q, (Place.mk before ahead).Run inClass 0 q ∧ (k q).isSome = true := by
  induction ahead with
  | nil =>
    intro before
    simp only [shortest, run_nil, true_and, exists_eq_left]
  | cons c rest ih =>
    intro before
    simp only [run_cons, or_and_right, exists_or, true_and, exists_eq_left, and_assoc,
      exists_and_left]
    rw [shortest, Option.isSome_or, Bool.or_eq_true, isSome_guard, ih]

end

section

variable {α : Type} {k : Place → List Char → Option α} {Goal : Place → Prop}

/-- Where the matcher succeeds there is a way, and behind it the continuation succeeds. -/
theorem spans_of_step (pat : Pattern) (hk : ∀ q seen, (k q seen).isSome = true → Goal q) (p : Place)
    (seen : List Char) (h : (pat.step p seen k).isSome = true) :
    ∃ q, pat.Spans p q ∧ Goal q := by
  induction pat generalizing k Goal p seen with
  | here => exact ⟨p, rfl, hk p seen h⟩
  | one inClass =>
    obtain ⟨before, ahead⟩ := p
    cases ahead with
    | nil => exact Bool.noConfusion h
    | cons d rest =>
      obtain ⟨hd, hsome⟩ := isSome_guard.1 h
      exact ⟨_, ⟨d, hd, passed_cons.2 ⟨rfl, passed_nil.2 rfl⟩⟩, hk _ _ hsome⟩
  | run least inClass =>
    obtain ⟨q, hrun, hsome⟩ := isSome_longest.1 h
    exact ⟨q, hrun, hk q seen hsome⟩
  | shortRun inClass =>
    obtain ⟨q, hrun, hsome⟩ := isSome_shortest.1 h
    exact ⟨q, hrun, hk q seen hsome⟩
  | wordEdge =>
    obtain ⟨hedge, hsome⟩ := isSome_guard.1 h
    exact ⟨p, ⟨hedge, rfl⟩, hk p seen hsome⟩
  | front =>
    obtain ⟨hfront, hsome⟩ := isSome_guard.1 h
    exact ⟨p, ⟨Option.isNone_iff_eq_none.1 hfront, rfl⟩, hk p seen hsome⟩
  | seq a b iha ihb =>
    -- what comes behind the first part is a way through the second
    obtain ⟨r, har, q, hbq, hgoal⟩ := iha (fun r seen => ihb hk r seen) p seen h
    exact ⟨q, ⟨r, har, hbq⟩, hgoal⟩
  | alt a b iha ihb =>
    rw [step, Option.isSome_or, Bool.or_eq_true] at h
    rcases h with h | h
    · obtain ⟨q, haq, hgoal⟩ := iha hk p seen h
      exact ⟨q, .inl haq, hgoal⟩
    · obtain ⟨q, hbq, hgoal⟩ := ihb hk p seen h
      exact ⟨q, .inr hbq, hgoal⟩
  | group a ih => exact ih (fun q _ => hk q _) p seen h

/-- Where there is no way the matcher fails. -/
theorem step_eq_none {pat : Pattern} {p : Place} (h : ∀ q, ¬ pat.Spans p q) (seen : List Char)
    (k : Place → List Char → Option α) : pat.step p seen k = none := by
  rw [← Option.not_isSome_iff_eq_none]
  intro hsome
  obtain ⟨q, hspans, -⟩ := spans_of_step pat (fun _ _ _ => True.intro) p seen hsome
  exact h q hspans

/-- Where there is a way and the continuation succeeds behind it, the matcher succeeds, if what the
    group remembers makes no difference. -/
theorem step_of_spans (pat : Pattern) (hk : ∀ q seen, Goal q → (k q seen).isSome = true)
    {p q : Place} (seen : List Char) (h : pat.Spans p q) (hgoal : Goal q) :
    (pat.step p seen k).isSome = true := by
  induction pat generalizing k Goal p q seen with
  | here =>
    obtain rfl : p = q := h
    exact hk p seen hgoal
  | one inClass =>
    obtain ⟨c, hc, hpassed⟩ := h
    obtain ⟨before, ahead⟩ := p
    cases ahead with
    | nil => exact absurd hpassed.ahead.symm (List.cons_ne_nil _ _)
    | cons d rest =>
      obtain ⟨rfl, hnil⟩ := passed_cons.1 hpassed
      obtain rfl := passed_nil.1 hnil
      exact isSome_guard.2 ⟨hc, hk _ seen hgoal⟩
  | run least inClass => exact isSome_longest.2 ⟨q, h, hk q seen hgoal⟩
  | shortRun inClass => exact isSome_shortest.2 ⟨q, h, hk q seen hgoal⟩
  | wordEdge =>
    obtain ⟨hedge, rfl⟩ := h
    exact isSome_guard.2 ⟨hedge, hk p seen hgoal⟩
  | front =>
    obtain ⟨hfront, rfl⟩ := h
    exact isSome_guard.2 ⟨Option.isNone_iff_eq_none.2 hfront, hk p seen hgoal⟩
  | seq a b iha ihb =>
    obtain ⟨r, har, hbq⟩ := h
    refine iha (fun r seen (hbr : b.Spans r q) => ?_) seen har hbq
    exact ihb hk seen hbr hgoal
  | alt a b iha ihb =>
    rw [step, Option.isSome_or, Bool.or_eq_true]
    exact h.imp (fun ha => iha hk seen ha hgoal) (fun hb => ihb hk seen hb hgoal)
  -- the group hands on another memory, which makes no difference
  | group a ih => exact ih (fun q _ => hk q _) seen h hgoal

end

/-- **The matcher succeeds if there is a way and its continuation succeeds behind it**, as long as
    what the group remembers makes no difference. -/
theorem isSome_step {α : Type} (pat : Pattern) {k : Place → List Char → Option α}
    {Goal : Place → Prop} (hk : ∀ q seen, (k q seen).isSome = true ↔ Goal q) (p : Place)
    (seen : List Char) :
    (pat.step p seen k).isSome = true ↔ ∃ q, pat.Spans p q ∧ Goal q := by
  constructor
  · exact spans_of_step pat (fun q seen => (hk q seen).1) p seen
  · rintro ⟨q, hspans, hgoal⟩
    exact step_of_spans pat (fun q seen => (hk q seen).2) seen hspans hgoal

/-- A pattern matches at a place if it spans something there. -/
theorem isSome_matchAt (pat : Pattern) (p : Place) :
    (pat.matchAt p).isSome = true ↔ ∃ q, pat.Spans p q := by
  have hstep : (pat.matchAt p).isSome = true ↔ ∃ q, pat.Spans p q ∧ True :=
    isSome_step pat (fun _ _ => ⟨fun _ => trivial, fun _ => rfl⟩) p []
  simpa only [and_true] using hstep

/-! ## §3. Occurrences -/

/-- The places of a text are those that some part of it leads to. -/
theorem mem_places {cs : List Char} : ∀ {before : Option Char} {p : Place},
    p ∈ places before cs ↔ ∃ taken, (Place.mk before cs).Passed p taken := by
  induction cs with
  | nil =>
    intro before p
    rw [places, List.mem_singleton]
    constructor
    · rintro rfl
      exact ⟨[], passed_nil.2 rfl⟩
    · rintro ⟨taken, hpassed⟩
      cases taken with
      | nil => exact (passed_nil.1 hpassed).symm
      | cons d taken => exact absurd hpassed.ahead.symm (List.cons_ne_nil _ _)
  | cons c rest ih =>
    intro before p
    rw [places, List.mem_cons, ih]
    constructor
    · rintro (rfl | ⟨taken, hpassed⟩)
      · exact ⟨[], passed_nil.2 rfl⟩
      · exact ⟨c :: taken, passed_cons.2 ⟨rfl, hpassed⟩⟩
    · rintro ⟨taken, hpassed⟩
      cases taken with
      | nil => exact .inl (passed_nil.1 hpassed).symm
      | cons d taken => exact .inr ⟨taken, (passed_cons.1 hpassed).2⟩

/-- **A pattern occurs in a text if it spans what lies between two places of it.** -/
theorem occurs_iff_spans (pat : Pattern) (cs : List Char) :
    pat.occurs cs = true ↔
      ∃ p q taken, (Place.mk none cs).Passed p taken ∧ pat.Spans p q := by
  simp only [occurs_iff, isSome_matchAt, mem_places]
  constructor
  · rintro ⟨p, ⟨taken, hpassed⟩, q, hspans⟩
    exact ⟨p, q, taken, hpassed, hspans⟩
  · rintro ⟨p, q, taken, hpassed, hspans⟩
    exact ⟨p, ⟨taken, hpassed⟩, q, hspans⟩

/-! ## §4. Texts in texts -/

/-- May the pattern match anywhere?  It may unless it asks for the front of the text. -/
def isAnywhere : Pattern → Bool
  | front => false
  | seq a b | alt a b => a.isAnywhere && b.isAnywhere
  | group a => a.isAnywhere
  | _ => true

section

variable {left right : List Char}

/-- A place of a text, in the text between `left` and `right`. -/
def Place.within (left right : List Char) (p : Place) : Place :=
  ⟨p.before.or left.getLast?, p.ahead ++ right⟩

theorem passed_within {p q : Place} {taken : List Char} (h : p.Passed q taken) :
    (p.within left right).Passed (q.within left right) taken where
  ahead := by
    show p.ahead ++ right = taken ++ (q.ahead ++ right)
    rw [h.ahead, List.append_assoc]
  before := by
    show q.before.or left.getLast? = taken.getLast?.or (p.before.or left.getLast?)
    rw [h.before, Option.or_assoc]

/-- Where no word goes on at an end of the text, the words in it are the same. -/
theorem isWordEdge_within (hleft : left.getLast?.any isWordChar = false)
    (hright : right.head?.any isWordChar = false) (p : Place) :
    (p.within left right).isWordEdge = p.isWordEdge := by
  have hbefore : (p.before.or left.getLast?).any isWordChar = p.before.any isWordChar := by
    cases p.before with
    | none => exact hleft
    | some c => rfl
  have hahead : (p.ahead ++ right).head?.any isWordChar = p.ahead.head?.any isWordChar := by
    cases p.ahead with
    | nil => exact hright
    | cons c rest => rfl
  unfold Place.isWordEdge Place.within
  rw [hbefore, hahead]

theorem spans_within {pat : Pattern} (hpat : pat.isAnywhere = true)
    (hleft : left.getLast?.any isWordChar = false)
    (hright : right.head?.any isWordChar = false) {p q : Place} (h : pat.Spans p q) :
    pat.Spans (p.within left right) (q.within left right) := by
  induction pat generalizing p q with
  | here => exact congrArg (Place.within left right) h
  | one inClass =>
    obtain ⟨c, hc, hpassed⟩ := h
    exact ⟨c, hc, passed_within hpassed⟩
  | run least inClass =>
    obtain ⟨taken, hall, hleast, hpassed⟩ := h
    exact ⟨taken, hall, hleast, passed_within hpassed⟩
  | shortRun inClass =>
    obtain ⟨taken, hall, hleast, hpassed⟩ := h
    exact ⟨taken, hall, hleast, passed_within hpassed⟩
  | wordEdge =>
    obtain ⟨hedge, rfl⟩ := h
    exact ⟨(isWordEdge_within hleft hright p).trans hedge, rfl⟩
  -- the front of the text is the one thing that the longer text moves away
  | front => exact Bool.noConfusion hpat
  | seq a b iha ihb =>
    obtain ⟨ha, hb⟩ := (Bool.and_eq_true _ _).mp hpat
    obtain ⟨r, har, hbq⟩ := h
    exact ⟨r.within left right, iha ha har, ihb hb hbq⟩
  | alt a b iha ihb =>
    obtain ⟨ha, hb⟩ := (Bool.and_eq_true _ _).mp hpat
    exact h.imp (iha ha) (ihb hb)
  | group a ih => exact ih hpat h

/-- **What occurs in a text occurs in every text around it**, as long as no word goes on at its
    ends. -/
theorem occurs_within {pat : Pattern} (hpat : pat.isAnywhere = true)
    (hleft : left.getLast?.any isWordChar = false)
    (hright : right.head?.any isWordChar = false) {text : List Char}
    (h : pat.occurs text = true) : pat.occurs (left ++ text ++ right) = true := by
  rw [occurs_iff_spans] at h ⊢
  obtain ⟨p, q, taken, hpassed, hspans⟩ := h
  -- the same way, with all of `left` passed before it
  refine ⟨p.within left right, q.within left right, left ++ taken, ⟨?_, ?_⟩,
    spans_within hpat hleft hright hspans⟩
  · show left ++ text ++ right = left ++ taken ++ (p.ahead ++ right)
    have htext : text = taken ++ p.ahead := hpassed.ahead
    rw [htext]
    simp only [List.append_assoc]
  · show p.before.or left.getLast? = ((left ++ taken).getLast?).or none
    rw [hpassed.before, List.getLast?_append, Option.or_none, Option.or_none]

end

end ScriptGate.Text.Pattern
