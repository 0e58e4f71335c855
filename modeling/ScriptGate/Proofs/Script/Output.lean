/-
  ScriptGate.Proofs.Script.Output — what the scan writes, fragment by fragment.

  Until a semicolon closes it, the open fragment takes on at most one character for every character
  that is read.  So a script is read as the text that its first fragment takes on and, where a
  semicolon closes that fragment, a script behind it.
  Main statements:
    - `cut_run`          — a scan is that of its open fragment and of what a semicolon leaves;
    - `fragments_first`  — the fragments of a script, by its first one and the script behind it;
    - `separated_iff`    — a semicolon that is kept separates nothing.
-/
import ScriptGate.Proofs.Script.Boundary

namespace ScriptGate.Script

open ScriptGate.Text

/-! ## §1. One fragment -/

/-- The text that the open fragment takes on. -/
def written (s : Scanner) : List Char → List Char
  | [] => []
  | c :: ahead =>
    if s.cutsAt c then [] else (s.takes c ahead).toList ++ written (s.read c ahead) ahead

/-- The text behind the semicolon that closes the open fragment, if one does. -/
def beyond (s : Scanner) : List Char → Option (List Char)
  | [] => none
  | c :: ahead => if s.cutsAt c then some ahead else beyond (s.read c ahead) ahead

theorem length_beyond {input rest : List Char} :
    ∀ {s : Scanner}, beyond s input = some rest → rest.length < input.length := by
  induction input with
  | nil =>
    intro s h
    exact absurd h (by simp [beyond])
  | cons c ahead ih =>
    intro s h
    unfold beyond at h
    split at h
    · injection h with h
      rw [h]
      exact Nat.lt_succ_self _
    · exact Nat.lt_succ_of_lt (ih h)

/-- The scanner with more text in its open fragment. -/
def Scanner.grown (s : Scanner) (text : List Char) : Scanner :=
  { s with current := text.reverse ++ s.current }

/-- A cut only looks at the open fragment and at the closed ones. -/
theorem cut_congr {s t : Scanner} (hcurrent : s.current = t.current)
    (hclosed : s.closed = t.closed) : s.cut = t.cut := by
  unfold Scanner.cut
  rw [hcurrent, hclosed]

/-- A scan is that of its open fragment and, behind a semicolon, of the rest. -/
theorem cut_run (input : List Char) :
    ∀ s : Scanner, (s.run input).cut =
      match beyond s input with
      | none => (s.grown (written s input)).cut
      | some rest => ((s.grown (written s input)).cut.run rest).cut := by
  induction input with
  | nil => exact fun s => rfl
  | cons c ahead ih =>
    intro s
    unfold beyond written
    rw [run_cons]
    cases hc : s.cutsAt c with
    | true =>
      rw [read_cutsAt hc]
      rfl
    | false =>
      obtain ⟨hcurrent, hclosed⟩ := current_read hc ahead
      -- what is written of the whole text begins with what is taken on of `c`
      have hgrown : ((s.read c ahead).grown (written (s.read c ahead) ahead)).cut
          = (s.grown ((s.takes c ahead).toList ++ written (s.read c ahead) ahead)).cut := by
        refine cut_congr ?_ hclosed
        show _ ++ (s.read c ahead).current = _ ++ s.current
        rw [hcurrent, List.reverse_append, List.append_assoc]
        cases s.takes c ahead <;> rfl
      rw [if_neg Bool.false_ne_true, if_neg Bool.false_ne_true, ih, hgrown]

/-! ## §2. Fragments -/

/-- The fragment that comes of a text: nothing if it is blank. -/
def whole (text : List Char) : List (List Char) :=
  if (trim text).isEmpty then [] else [trim text]

theorem reverse_whole (text : List Char) : (whole text).reverse = whole text := by
  unfold whole
  split <;> rfl

theorem whole_eq_nil_iff (text : List Char) : whole text = [] ↔ text.all isBlank = true := by
  rw [← trim_nil_iff]
  unfold whole
  by_cases h : trim text = []
  · rw [if_pos (List.isEmpty_iff.2 h)]
    exact ⟨fun _ => h, fun _ => rfl⟩
  · rw [if_neg fun hempty => h (List.isEmpty_iff.1 hempty)]
    exact ⟨fun hnil => absurd hnil (List.cons_ne_nil _ _), fun hnil => absurd hnil h⟩

theorem whole_of_not_blank {text : List Char} (h : text.all isBlank = false) :
    whole text = [trim text] := by
  have hne : trim text ≠ [] := by
    rw [Ne, trim_nil_iff, h]
    exact Bool.false_ne_true
  rw [whole, if_neg fun hempty => hne (List.isEmpty_iff.1 hempty)]

theorem closed_cut (s : Scanner) : s.cut.closed = whole s.current.reverse ++ s.closed := by
  unfold Scanner.cut whole
  dsimp only
  by_cases h : (trim s.current.reverse).isEmpty = true
  · rw [if_pos h, if_pos h]
    rfl
  · rw [if_neg h, if_neg h]
    rfl

/-- The fragments of a scan: those closed before it, its first one and those of the text behind
    it. -/
theorem closed_cut_run (s : Scanner) (input : List Char) :
    (s.run input).cut.closed.reverse
      = s.closed.reverse ++ (whole (s.current.reverse ++ written s input) ++
          match beyond s input with
          | none => []
          | some rest => fragments rest) := by
  have hwhole : (s.grown (written s input)).cut.closed
      = whole (s.current.reverse ++ written s input) ++ s.closed := by
    rw [closed_cut]
    show whole ((written s input).reverse ++ s.current).reverse ++ s.closed = _
    rw [List.reverse_append, List.reverse_reverse]
  -- the first fragment ends where the scan cuts for the first time, or with the text
  rw [cut_run]
  cases beyond s input with
  | none =>
    dsimp only
    rw [hwhole, List.reverse_append, reverse_whole, List.append_nil]
  | some rest =>
    dsimp only
    have hcut : (s.grown (written s input)).cut
        = ⟨.top, [], whole (s.current.reverse ++ written s input) ++ s.closed⟩ := by
      rw [← hwhole]
      rfl
    rw [hcut, closed_run_top, List.reverse_append, reverse_whole, List.append_assoc]

/-- **The fragments of a script, by its first one and the script behind it.** -/
theorem fragments_first (script : List Char) :
    fragments script = whole (written .start script) ++
      match beyond .start script with
      | none => []
      | some rest => fragments rest :=
  closed_cut_run .start script

/-! ## §3. Semicolons that separate nothing -/

/-- **Outside of comments, a semicolon separates exactly at top level.**  Anywhere else the
    fragment in front of it goes on with it. -/
theorem separated_iff {u : List Char}
    (hgives : (Scanner.start.run u).mode.gives ';' = some ';')
    (hcurrent : (Scanner.start.run u).current.all isBlank = false) (b : List Char) :
    fragments (u ++ ';' :: b) = fragments u ++ fragments b ↔
      (Scanner.start.run u).mode.isTop = true := by
  refine ⟨fun hsame => ?_, fun htop => fragments_semicolon htop b⟩
  rw [← Bool.not_eq_false]
  intro hmode
  let s := Scanner.start.run u
  have hbefore : fragments u = s.closed.reverse ++ whole s.current.reverse := by
    show s.cut.closed.reverse = _
    rw [closed_cut, List.reverse_append, reverse_whole]
  obtain ⟨text, others, hbehind⟩ : ∃ text others, fragments (u ++ ';' :: b)
      = s.closed.reverse ++ (whole (s.current.reverse ++ ';' :: text) ++ others) := by
    have hwritten : written s (';' :: b) = ';' :: written (s.read ';' b) b := by
      rw [written, not_cutsAt hmode, if_neg Bool.false_ne_true, Scanner.takes, hmode,
        if_neg Bool.false_ne_true, hgives]
      rfl
    have hrun := closed_cut_run s (';' :: b)
    rw [hwritten, ← run_append _ (startsApart_semicolon b)] at hrun
    exact ⟨_, _, hrun⟩
  -- the fragment that has the semicolon would be the one that has not
  have hshort : s.current.reverse.all isBlank = false := by rw [List.all_reverse, hcurrent]
  have hlong : (s.current.reverse ++ ';' :: text).all isBlank = false := by
    rw [List.all_append, hshort, Bool.false_and]
  rw [hbefore, hbehind, List.append_assoc, List.append_cancel_left_eq, whole_of_not_blank hlong,
    whole_of_not_blank hshort] at hsame
  injection hsame with hsame _
  have hcount := congrArg (List.count ';') hsame
  rw [count_trim (by decide), count_trim (by decide), List.count_append, List.count_cons_self]
    at hcount
  omega

end ScriptGate.Script
