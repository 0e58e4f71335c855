/-
  ScriptGate.Proofs.Text.Reading — how a pattern reads a text of a known form.

  Where it is known what a text begins with, the matcher is run on it: letters are passed one by
  one, a run takes all that there is if what comes behind succeeds, and a pattern that is tied to
  the front of the text is tried there only.  The matches of a text are those of its stretches, as
  long as no match begins in one stretch and ends in the next.
  Main statements:
    - `step_text`            — letters that are there are passed;
    - `spans_run_append`     — there is one way through a run that cannot end before it is over;
    - `longest_of_some`      — a run takes all that there is;
    - `find?_front`          — a pattern tied to the front is tried there only;
    - `go_skip`, `go_take`   — the matches of a text, stretch by stretch.
-/
import ScriptGate.Proofs.Text.Word

namespace ScriptGate.Text

/-! ## §1. Two ways to divide a text -/

/-- A text is divided in one way only where its characters leave a class. -/
theorem divided_once {p : Char → Bool} {x y a b : List Char} (h : x ++ a = y ++ b)
    (hx : ∀ c ∈ x, p c = true) (hy : ∀ c ∈ y, p c = true) (ha : a.head?.any p = false)
    (hb : b.head?.any p = false) : x = y ∧ a = b := by
  have hfront : ∀ {u v : List Char}, (∀ c ∈ u, p c = true) → v.head?.any p = false →
      (u ++ v).takeWhile p = u := by
    intro u v hu hv
    cases v with
    | nil => rw [List.append_nil, takeWhile_all hu]
    | cons c rest => exact takeWhile_upto hu hv rest
  have hxy : x = y := by rw [← hfront hx ha, h, hfront hy hb]
  exact ⟨hxy, List.append_cancel_left (hxy ▸ h)⟩

end ScriptGate.Text

namespace ScriptGate.Text.Pattern

/-! ## §2. Letters and runs -/

section

variable {α : Type} {before : Option Char} {rest seen : List Char} {a : α}

theorem step_letters {cs : List Char} {before : Option Char} (k : Place → List Char → Option α) :
    (all (cs.map fun c => one (· == c))).step ⟨before, cs ++ rest⟩ seen k
      = k ⟨cs.getLast?.or before, rest⟩ seen := by
  induction cs generalizing before with
  | nil => rfl
  | cons c more ih =>
    rw [getLast?_cons_or, ← ih]
    exact if_pos (beq_self_eq_true c)

/-- **Letters that are there are passed.** -/
theorem step_text (s : String) (k : Place → List Char → Option α) :
    (text s).step ⟨before, s.toList ++ rest⟩ seen k
      = k ⟨s.toList.getLast?.or before, rest⟩ seen :=
  step_letters k

section

variable {inClass : Char → Bool} {k : Place → Option α}

/-- **A run takes all that there is**, if what comes behind it succeeds there. -/
theorem longest_of_some {front : List Char} (hrest : rest.head?.any inClass = false) :
    ∀ {least : Nat} {before : Option Char}, (∀ c ∈ front, inClass c = true) →
      least ≤ front.length → k ⟨front.getLast?.or before, rest⟩ = some a →
      longest inClass k least before (front ++ rest) = some a := by
  induction front with
  | nil =>
    intro least before _ hleast hk
    obtain rfl : least = 0 := Nat.le_zero.1 hleast
    -- no character of the class is left, so the run ends here
    cases rest with
    | nil => exact hk
    | cons c more =>
      have hc : ¬ inClass c = true := Bool.eq_false_iff.1 hrest
      rw [List.nil_append, longest, if_neg hc]
      exact hk
  | cons c more ih =>
    intro least before hfront hleast hk
    obtain ⟨hc, hmore⟩ := List.forall_mem_cons.1 hfront
    rw [getLast?_cons_or] at hk
    rw [List.cons_append, longest, if_pos hc, ih hmore (Nat.sub_le_of_le_add hleast) hk]
    rfl

/-- The one blank that there is is passed. -/
theorem step_blanks (hrest : rest.head?.any isBlank = false) (k : Place → List Char → Option α) :
    blanks.step ⟨before, ' ' :: rest⟩ seen k = k ⟨some ' ', rest⟩ seen := by
  have hone : longest isBlank (k · seen) 0 (some ' ') rest = k ⟨some ' ', rest⟩ seen := by
    cases rest with
    | nil => rfl
    | cons c more =>
      have hc : ¬ isBlank c = true := Bool.eq_false_iff.1 hrest
      rw [longest, if_neg hc]
      rfl
  show longest isBlank (k · seen) 1 before (' ' :: rest) = _
  rw [longest, if_pos (by decide), hone]
  exact Option.or_none

/-- A group around a run holds all that there is. -/
theorem step_group_run {inClass : Char → Bool} {front : List Char} (hne : front ≠ [])
    (hfront : ∀ c ∈ front, inClass c = true) (hrest : rest.head?.any inClass = false)
    {k : Place → List Char → Option α} (hk : k ⟨front.getLast?.or before, rest⟩ front = some a) :
    (group (run 1 inClass)).step ⟨before, front ++ rest⟩ seen k = some a := by
  refine longest_of_some hrest hfront (List.length_pos_iff.2 hne) ?_
  show k ⟨front.getLast?.or before, rest⟩
    ((front ++ rest).take ((front ++ rest).length - rest.length)) = some a
  rwa [List.length_append, Nat.add_sub_cancel, List.take_left]

/-- What need not be there is passed over where it is not. -/
theorem step_optional {pat : Pattern} {p : Place} (h : ∀ q, ¬ pat.Spans p q)
    (k : Place → List Char → Option α) : (optional pat).step p seen k = k p seen := by
  show (pat.step p seen k).or (k p seen) = _
  rw [step_eq_none h]
  rfl

theorem step_all_optional {pat : Pattern} {parts : List Pattern} {p : Place}
    (h : ∀ q, ¬ pat.Spans p q) (k : Place → List Char → Option α) :
    (all (optional pat :: parts)).step p seen k = (all parts).step p seen k :=
  step_optional h fun p seen => (all parts).step p seen k

end

end

section

variable {parts : List Pattern} {before : Option Char} {rest : List Char} {q : Place}

/-- There is one way through letters that are there. -/
theorem spans_text_append {s : String} :
    (all (text s :: parts)).Spans ⟨before, s.toList ++ rest⟩ q ↔
      (all parts).Spans ⟨s.toList.getLast?.or before, rest⟩ q := by
  rw [spans_all_cons]
  constructor
  · intro h
    obtain ⟨⟨b, ahead⟩, htext, hparts⟩ := h
    obtain ⟨hahead, hbefore⟩ := spans_text.1 htext
    obtain rfl : rest = ahead := List.append_cancel_left hahead
    obtain rfl : b = _ := hbefore
    exact hparts
  · intro h
    exact ⟨_, spans_text.2 ⟨rfl, rfl⟩, h⟩

/-- What begins with letters is found in front of the first of them only. -/
theorem head?_of_spans_text {s : String} {c : Char} (hs : s.toList.head? = some c) {p : Place}
    (h : (all (text s :: parts)).Spans p q) : p.ahead.head? = some c := by
  obtain ⟨r, htext, -⟩ := spans_all_cons.1 h
  rw [(spans_text.1 htext).ahead, List.head?_append, hs, Option.some_or]

/-- **There is one way through a run that cannot end before it is over.** -/
theorem spans_run_append {inClass : Char → Bool} {least : Nat} {front : List Char}
    (hfront : ∀ c ∈ front, inClass c = true) (hleast : least ≤ front.length)
    (hrest : rest.head?.any inClass = false)
    (hparts : ∀ {r : Place}, (all parts).Spans r q → r.ahead.head?.any inClass = false) :
    (all (run least inClass :: parts)).Spans ⟨before, front ++ rest⟩ q ↔
      (all parts).Spans ⟨front.getLast?.or before, rest⟩ q := by
  rw [spans_all_cons]
  constructor
  · intro h
    obtain ⟨⟨b, ahead⟩, ⟨taken, hall, -, hahead, hbefore⟩, hspans⟩ := h
    obtain ⟨rfl, rfl⟩ := divided_once hahead hfront (List.all_eq_true.1 hall) hrest (hparts hspans)
    obtain rfl : b = _ := hbefore
    exact hspans
  · intro h
    exact ⟨_, ⟨front, List.all_eq_true.2 hfront, hleast, rfl, rfl⟩, h⟩

end

/-! ## §3. The front of a text -/

/-- Does nothing in the pattern change what is remembered? -/
def isUngrouped : Pattern → Bool
  | group _ => false
  | seq a b | alt a b => a.isUngrouped && b.isUngrouped
  | _ => true

section

variable {α : Type} {P : α → Prop} {a : α}

theorem longest_forall {inClass : Char → Bool} {k : Place → Option α}
    (hk : ∀ q a, k q = some a → P a) {ahead : List Char} :
    ∀ {least : Nat} {before : Option Char}, longest inClass k least before ahead = some a →
      P a := by
  -- the run goes on, or what comes behind it is tried here
  have hguard : ∀ {least : Nat} {q : Place}, (if least = 0 then k q else none) = some a → P a := by
    intro least q h
    split at h
    · exact hk q a h
    · cases h
  induction ahead with
  | nil => exact fun h => hguard h
  | cons c rest ih =>
    intro least before h
    rw [longest] at h
    split at h
    · rcases Option.or_eq_some_iff.1 h with h | ⟨-, h⟩
      · exact ih h
      · exact hguard h
    · exact hguard h

theorem shortest_forall {inClass : Char → Bool} {k : Place → Option α}
    (hk : ∀ q a, k q = some a → P a) {ahead : List Char} :
    ∀ {before : Option Char}, shortest inClass k before ahead = some a → P a := by
  induction ahead with
  | nil => exact fun h => hk _ a h
  | cons c rest ih =>
    intro before h
    rcases Option.or_eq_some_iff.1 h with h | ⟨-, h⟩
    · exact hk _ a h
    · split at h
      · exact ih h
      · cases h

/-- A pattern without a group hands on what is remembered. -/
theorem step_forall {pat : Pattern} (hpat : pat.isUngrouped = true) {seen : List Char}
    {k : Place → List Char → Option α} (hk : ∀ q a, k q seen = some a → P a) {p : Place}
    (h : pat.step p seen k = some a) : P a := by
  -- the rest of the pattern is a continuation, and the parts hand on to each other
  induction pat generalizing k p a with
  | here => exact hk p a h
  | one inClass =>
    obtain ⟨before, ahead⟩ := p
    cases ahead with
    | nil => cases h
    | cons c rest =>
      rw [step] at h
      split at h
      · exact hk _ a h
      · cases h
  | run least inClass => exact longest_forall hk h
  | shortRun inClass => exact shortest_forall hk h
  | wordEdge | front =>
    rw [step] at h
    split at h
    · exact hk p a h
    · cases h
  | seq x y ihx ihy =>
    obtain ⟨hx, hy⟩ := (Bool.and_eq_true _ _).mp hpat
    exact ihx hx (fun q a h => ihy hy hk h) h
  | alt x y ihx ihy =>
    obtain ⟨hx, hy⟩ := (Bool.and_eq_true _ _).mp hpat
    rcases Option.or_eq_some_iff.1 h with h | ⟨-, h⟩
    · exact ihx hx hk h
    · exact ihy hy hk h
  | group x _ => exact Bool.noConfusion hpat

end

/-- Behind a character a pattern tied to the front is not found. -/
theorem findFrom_front (parts : List Pattern) (c : Char) (rest : List Char) :
    (all (front :: parts)).findFrom (some c) rest = none := by
  induction rest generalizing c with
  | nil => rfl
  | cons d more ih =>
    rw [findFrom, ih d]
    rfl

/-- **A pattern tied to the front is tried there only.** -/
theorem find?_front (parts : List Pattern) (cs : List Char) :
    (all (front :: parts)).find? cs = (all parts).matchAt ⟨none, cs⟩ := by
  unfold find?
  cases cs with
  | nil => rfl
  | cons c rest =>
    rw [findFrom, findFrom_front, Option.or_none]
    rfl

theorem capture?_front (parts : List Pattern) (cs : List Char) :
    (all (front :: parts)).capture? cs = ((all parts).matchAt ⟨none, cs⟩).map Match.group := by
  rw [capture?, find?_front]

/-! ## §4. All matches -/

section

variable {pat : Pattern} {before : Option Char} {rest : List Char}

theorem go_pass (taken : List Char) : ∀ {before : Option Char},
    findAll.go pat taken.length before (taken ++ rest)
      = findAll.go pat 0 (taken.getLast?.or before) rest := by
  induction taken with
  | nil => exact fun {before} => rfl
  | cons c more ih =>
    intro before
    rw [getLast?_cons_or, ← ih]
    rfl

/-- **A match in front is the first one.** -/
theorem go_take {taken : List Char} (hne : taken ≠ []) {m : Match}
    (hlength : m.length = taken.length) (h : pat.matchAt ⟨before, taken ++ rest⟩ = some m) :
    findAll.go pat 0 before (taken ++ rest)
      = m :: findAll.go pat 0 (taken.getLast?.or before) rest := by
  obtain ⟨c, more, rfl⟩ := List.exists_cons_of_ne_nil hne
  have hpos : ¬ m.length = 0 := by
    rw [hlength, List.length_cons]
    omega
  have hless : m.length - 1 = more.length := by
    rw [hlength, List.length_cons]
    omega
  rw [List.cons_append] at h ⊢
  rw [findAll.go, h]
  dsimp only
  rw [if_neg hpos, hless, go_pass, getLast?_cons_or]

/-- **A stretch in which no match begins is passed over.** -/
theorem go_skip {stretch : List Char} : ∀ {before : Option Char},
    (∀ x y, stretch = x ++ y → y ≠ [] →
      pat.matchAt ⟨x.getLast?.or before, y ++ rest⟩ = none) →
    findAll.go pat 0 before (stretch ++ rest)
      = findAll.go pat 0 (stretch.getLast?.or before) rest := by
  induction stretch with
  | nil => exact fun {before} _ => rfl
  | cons c more ih =>
    intro before h
    have hfirst : pat.matchAt ⟨before, c :: (more ++ rest)⟩ = none :=
      h [] (c :: more) rfl (List.cons_ne_nil _ _)
    rw [getLast?_cons_or, ← ih fun x y hxy hy => ?_, List.cons_append, findAll.go, hfirst]
    rw [← getLast?_cons_or]
    exact h (c :: x) y (by rw [hxy]; rfl) hy

end

end ScriptGate.Text.Pattern
