/-
  ScriptGate.Proofs.Review.Severity — what the highest severity of a review tells.

  The review of a script looks at it twice: as a whole, by its opening words and by patterns
  anywhere in it, and statement by statement.  The highest severity is that of the first look only.
  An attack in a statement shows in the whole script as well, unless a comment stands in it; that a
  later statement removes a definition or touches every row of a table does not show.
  Main statements:
    - `hasCritical_analyze`  — a review has a critical finding if the text is dangerous;
    - `injected_of_mem`      — an attack in a statement shows in a script without comments;
    - `highest_told_iff`     — when the highest severity is at least that of every statement.
-/
import ScriptGate.Proofs.Script.Cover
import ScriptGate.Proofs.Script.Grammar
import ScriptGate.Proofs.Text.Blank
import ScriptGate.Proofs.Text.Match
import ScriptGate.Review.Overview
import ScriptGate.Sql.Read

namespace ScriptGate.Review

open ScriptGate.Text ScriptGate.Script ScriptGate.Statement

/-! ## §1. Statements in their script -/

/-- In a gap no word goes on, and there are no small letters. -/
theorem class_of_isGapChar {c : Char} (h : isGapChar c = true) :
    isWordChar c = false ∧ upperOf c = [c] := by
  rw [isGapChar, Bool.or_eq_true, beq_iff_eq] at h
  rcases h with hblank | rfl
  · exact ⟨isWordChar_of_isBlank hblank, upperOf_of_isBlank hblank⟩
  · decide

theorem getLast?_upper {left : List Char} (h : left.getLast?.all isGapChar = true) :
    (upper left).getLast?.any isWordChar = false := by
  rcases List.eq_nil_or_concat left with rfl | ⟨init, c, hleft⟩
  · rfl
  · rw [hleft, List.concat_eq_append] at h ⊢
    rw [List.getLast?_concat, Option.all_some] at h
    obtain ⟨hword, hupper⟩ := class_of_isGapChar h
    rw [upper_append, upper_cons, hupper, upper_nil, List.append_nil, List.getLast?_concat,
      Option.any_some, hword]

theorem head?_upper {right : List Char} (h : right.head?.all isGapChar = true) :
    (upper right).head?.any isWordChar = false := by
  cases right with
  | nil => rfl
  | cons c rest =>
    obtain ⟨hword, hupper⟩ := class_of_isGapChar h
    rw [upper_cons, hupper]
    exact hword

/-! ## §2. Attacks -/

/-- An attack shows in every text around it, as long as no word goes on at its ends. -/
theorem injected_within {left right : List Char} (hleft : left.getLast?.any isWordChar = false)
    (hright : right.head?.any isWordChar = false) {text : List Char} (h : injected text = true) :
    injected (left ++ text ++ right) = true := by
  have hanywhere : ∀ pat ∈ injectionPatterns, pat.isAnywhere = true :=
    List.all_eq_true.1 (by decide +kernel)
  unfold injected at h ⊢
  rw [List.any_eq_true] at h ⊢
  obtain ⟨pat, hpat, hoccurs⟩ := h
  exact ⟨pat, hpat, Pattern.occurs_within (hanywhere pat hpat) hleft hright hoccurs⟩

/-- **An attack in a statement shows in a script without comments.**  Around the statement there
    are blanks and semicolons, where no word goes on. -/
theorem injected_of_mem {script f : List Char} (h : CommentFree script)
    (hf : f ∈ fragments script) (hattack : injected (upper f) = true) :
    injected (upper (trim script)) = true := by
  obtain ⟨front, stretches, hcovers⟩ := exists_covers h
  obtain ⟨left, right, hscript, hleft, hright⟩ := hcovers.around hf
  obtain ⟨hne, hhead, hlast⟩ := ends_of_mem hf
  -- trimming takes blanks off the far ends of both sides
  rw [hscript, trim_around hne hhead hlast, upper_append, upper_append]
  exact injected_within (getLast?_upper (getLast?_trimStart hleft))
    (head?_upper (head?_trimEnd hright)) hattack

/-! ## §3. Severities -/

theorem foldl_max_mem (fs : List Finding) : ∀ s : Severity,
    fs.foldl (fun s f => s.max f.severity) s = s ∨
      ∃ f ∈ fs, f.severity = fs.foldl (fun s f => s.max f.severity) s := by
  induction fs with
  | nil => exact fun s => .inl rfl
  | cons g rest ih =>
    intro s
    rw [List.foldl_cons]
    have hmax : s.max g.severity = s ∨ s.max g.severity = g.severity := by
      unfold Severity.max
      split
      · exact .inr rfl
      · exact .inl rfl
    -- the greatest so far is that of a later finding, or it is the one in hand
    rcases ih (s.max g.severity) with hall | ⟨f, hf, hsame⟩
    · rw [hall]
      exact hmax.imp_right fun hg => ⟨g, List.mem_cons_self, hg.symm⟩
    · exact .inr ⟨f, List.mem_cons_of_mem g hf, hsame⟩

/-- The highest severity is that of a finding. -/
theorem exists_highest {fs : List Finding} {s : Severity} (h : highest? fs = some s) :
    ∃ f ∈ fs, f.severity = s := by
  cases fs with
  | nil => exact absurd h.symm (Option.some_ne_none s)
  | cons g rest =>
    have hs : rest.foldl (fun s f => s.max f.severity) g.severity = s := Option.some.inj h
    rcases foldl_max_mem rest g.severity with hfirst | ⟨f, hf, hsame⟩
    · exact ⟨g, List.mem_cons_self, hfirst.symm.trans hs⟩
    · exact ⟨f, List.mem_cons_of_mem g hf, hsame.trans hs⟩

theorem eq_critical_of_rank_le {s : Severity} (h : Severity.critical.rank ≤ s.rank) :
    s = .critical := by
  cases s with
  | critical => rfl
  | _ => exact absurd h (by decide)

theorem isCritical_iff {f : Finding} : f.isCritical = true ↔ f.severity = .critical := beq_iff_eq

/-- The highest severity is critical if any finding is. -/
theorem highest?_eq_critical_iff (fs : List Finding) :
    highest? fs = some .critical ↔ fs.any Finding.isCritical = true := by
  rw [List.any_eq_true]
  constructor
  · intro h
    obtain ⟨f, hf, hcritical⟩ := exists_highest h
    exact ⟨f, hf, isCritical_iff.2 hcritical⟩
  · rintro ⟨f, hf, hcritical⟩
    cases hs : highest? fs with
    | none =>
      rw [(highest?_eq_none_iff fs).1 hs] at hf
      exact absurd hf List.not_mem_nil
    | some s =>
      have hle := le_highest hs f hf
      rw [isCritical_iff.1 hcritical] at hle
      rw [eq_critical_of_rank_le hle]

/-! ## §4. Reviews -/

/-- Is a statement dangerous?  It removes a definition, touches every row of a table or looks like
    an attack. -/
def isDangerous (parser : Parser) (statement : List Char) : Bool :=
  isDestructive (shapeOf parser statement).1 || injected (upper statement)

/-- Does a text in capitals open like a destructive statement?  An UPDATE or a DELETE does unless
    there is a WHERE anywhere in the text. -/
def opensDestructive (capitals : List Char) : Bool :=
  match Kind.ofText capitals with
  | .drop | .truncate => true
  | .update | .delete => !wherePattern.occurs capitals
  | _ => false

theorem isDestructive_ofText (capitals : List Char) :
    isDestructive (.ofText capitals) = opensDestructive capitals := by
  unfold Shape.ofText opensDestructive
  cases Kind.ofText capitals <;> rfl

/-- A text that is not read as one statement is judged by its words. -/
theorem shapeOf_unparsed {parser : Parser} {text : List Char}
    (h : ∀ outline, parser text ≠ some [outline]) :
    shapeOf parser text = (.ofText (upper text), false) := by
  unfold shapeOf
  split
  · next shape hread =>
    obtain ⟨outline, hparser, _⟩ := (Reading.read_parsed_iff parser text shape).1 hread
    exact absurd hparser (h outline)
  · rfl

theorem isDangerous_unparsed {parser : Parser} {text : List Char}
    (h : ∀ outline, parser text ≠ some [outline]) :
    isDangerous parser text = (opensDestructive (upper text) || injected (upper text)) := by
  rw [isDangerous, shapeOf_unparsed h, isDestructive_ofText]

/-- The review of a text that is not blank. -/
theorem analyze_eq (parser : Parser) {text : List Char} (h : trim text ≠ []) :
    analyze parser text =
      let shaped := shapeOf parser (trim text)
      let found := observations shaped.1 shaped.2 (upper (trim text))
      ⟨trim text, some shaped.1.classification, shaped.2, found ++ [summary found]⟩ := by
  unfold analyze
  dsimp only
  rw [if_neg fun hempty => h (List.isEmpty_iff.1 hempty)]

theorem analyze_of_ne_nil (parser : Parser) {text : List Char} (h : trim text ≠ []) :
    (analyze parser text).findings =
      let found := observations (shapeOf parser (trim text)).1 (shapeOf parser (trim text)).2
        (upper (trim text))
      found ++ [summary found] :=
  congrArg Analysis.findings (analyze_eq parser h)

theorem findings_ne_nil (parser : Parser) (text : List Char) :
    (analyze parser text).findings ≠ [] := by
  by_cases h : trim text = []
  · unfold analyze
    dsimp only
    rw [if_pos (List.isEmpty_iff.2 h)]
    exact List.cons_ne_nil _ _
  · rw [analyze_of_ne_nil parser h]
    exact List.append_ne_nil_of_right_ne_nil _ (List.cons_ne_nil _ _)

/-- **A review has a critical finding if the text is dangerous.**  Hints on speed, the warning that
    the parser gave up and the summary are never critical. -/
theorem hasCritical_analyze (parser : Parser) {text : List Char} (h : trim text ≠ []) :
    (analyze parser text).hasCritical = isDangerous parser (trim text) := by
  have hfallback : ∀ parsed : Bool,
      (if parsed then [] else [fallbackWarning]).any Finding.isCritical = false := by
    intro parsed
    cases parsed <;> rfl
  have hsecurity : ∀ capitals,
      (securityFindings capitals).any Finding.isCritical = injected capitals := by
    intro capitals
    rw [securityFindings, any_isCritical_chosen]
    show (injected capitals && true || (_ && false || false)) = _
    rw [Bool.and_true, Bool.and_false, Bool.or_false, Bool.or_false]
  have hspeed : ∀ capitals, (performanceFindings capitals).any Finding.isCritical = false := by
    intro capitals
    rw [performanceFindings, any_isCritical_chosen]
    show (_ && false || (_ && false || (_ && false || (_ && false || false)))) = false
    simp only [Bool.and_false, Bool.or_false]
  -- what is left are the findings on the shape and the one on attacks
  rw [Analysis.hasCritical, analyze_of_ne_nil parser h]
  dsimp only
  unfold observations
  rw [List.any_append, List.any_append, List.any_append, List.any_append, hfallback,
    shapeFindings_critical_iff, hsecurity, hspeed, isDangerous]
  show (false || _ || _ || false || (false || false)) = _
  simp only [Bool.false_or, Bool.or_false]

/-- A text that is not read as one statement is not reviewed without a warning. -/
theorem fallback_mem {parser : Parser} {text : List Char} (hne : trim text ≠ [])
    (h : ∀ outline, parser (trim text) ≠ some [outline]) :
    fallbackWarning ∈ (analyze parser text).findings := by
  rw [analyze_of_ne_nil parser hne, shapeOf_unparsed h]
  exact List.mem_cons_self

/-! ## §5. Scripts -/

/-- No finding on a statement is above the highest severity. -/
def Overview.Told (o : Overview) : Prop :=
  ∀ s, o.highest? = some s → ∀ a ∈ o.statements, ∀ f ∈ a.findings, f.severity.rank ≤ s.rank

/-- A script of blanks has no statements. -/
theorem fragments_of_blank {script : List Char} (h : trim script = []) :
    fragments script = [] := by
  have hblank : script.all isBlank = true := (trim_nil_iff script).1 h
  have hrun := run_blanks (List.all_eq_true.1 hblank) [] (s := .start) rfl
  rw [List.append_nil] at hrun
  rw [fragments_of_reads ⟨.top, rfl, hrun⟩]
  exact (whole_eq_nil_iff script).2 hblank

theorem statements_overview (parser : Parser) {script : List Char} (h : fragments script ≠ []) :
    (overview parser script true).statements = (fragments script).map (analyze parser) := by
  show analyzeStatements parser script = _
  unfold analyzeStatements
  split
  · next hnil => exact absurd hnil h
  · rfl

/-- A statement of a script is critical if it is dangerous. -/
theorem hasCritical_of_mem (parser : Parser) {script f : List Char} (hf : f ∈ fragments script) :
    (analyze parser f).hasCritical = isDangerous parser f := by
  obtain ⟨hne, hhead, hlast⟩ := ends_of_mem hf
  have htrim : trim f = f := trim_eq_self hhead hlast
  rw [hasCritical_analyze parser (by rw [htrim]; exact hne), htrim]

/-- The highest severity of a script with statements is critical if the script taken for one
    statement is dangerous. -/
theorem highest?_overview (parser : Parser) {script : List Char} (h : fragments script ≠ []) :
    (overview parser script true).highest? = some .critical ↔
      isDangerous parser (trim script) = true := by
  have hne : trim script ≠ [] := fun hnil => h (fragments_of_blank hnil)
  show highest? (analyze parser script).findings = _ ↔ _
  rw [highest?_eq_critical_iff, ← hasCritical_analyze parser hne]
  rfl

/-- Where the script is not read as one statement, the highest severity misses critical findings
    only. -/
theorem told_iff_critical {parser : Parser} {script : List Char} (hsome : fragments script ≠ [])
    (h : ∀ outline, parser (trim script) ≠ some [outline]) :
    (overview parser script true).Told ↔
      ((∃ f ∈ fragments script, isDangerous parser f = true) →
        (overview parser script true).highest? = some .critical) := by
  have hne : trim script ≠ [] := fun hnil => hsome (fragments_of_blank hnil)
  have hstatements := statements_overview parser hsome
  constructor
  · rintro htold ⟨f, hf, hdangerous⟩
    rw [← hasCritical_of_mem parser hf] at hdangerous
    obtain ⟨g, hg, hcritical⟩ := List.any_eq_true.1 hdangerous
    cases hs : (overview parser script true).highest? with
    | none =>
      exact absurd ((highest?_eq_none_iff _).1 hs) (findings_ne_nil parser script)
    | some s =>
      have hmem : analyze parser f ∈ (overview parser script true).statements := by
        rw [hstatements]
        exact List.mem_map_of_mem hf
      have hle := htold s hs _ hmem g hg
      -- what is told is at least critical, and there is nothing above
      rw [isCritical_iff.1 hcritical] at hle
      rw [eq_critical_of_rank_le hle]
  · intro hcritical s hs a ha g hg
    rw [hstatements, List.mem_map] at ha
    obtain ⟨f, hf, rfl⟩ := ha
    by_cases hg' : g.isCritical = true
    · have hdangerous : isDangerous parser f = true := by
        rw [← hasCritical_of_mem parser hf]
        exact List.any_eq_true.2 ⟨g, hg, hg'⟩
      obtain rfl : s = .critical := Option.some.inj (hs.symm.trans (hcritical ⟨f, hf, hdangerous⟩))
      cases g.severity <;> decide
    · -- the script as a whole has the warning that the parser gave up
      have hwarning : Severity.warning.rank ≤ s.rank := le_highest hs _ (fallback_mem hne h)
      have hbelow : g.severity.rank ≤ Severity.warning.rank := by
        rw [isCritical_iff] at hg'
        cases hseverity : g.severity with
        | critical => exact absurd hseverity hg'
        | _ => decide
      exact Nat.le_trans hbelow hwarning

/-- **What the highest severity tells.**  It is the highest severity of the findings on the script
    as a whole, which are all there is for a script without statements.  A script that is not read
    as one statement is critical if it opens like a destructive statement or an attack shows
    anywhere in it.  So the highest severity is at least that of every finding on a statement if
    and only if no statement is dangerous or the script as a whole is critical; and without
    comments an attack is never missed, so then only destructive statements are. -/
theorem highest_told_iff (parser : Parser) (script : List Char) :
    let o := overview parser script true
    let capitals := upper (trim script)
    (∃ s, o.highest? = some s ∧ (∃ f ∈ o.findings, f.severity = s) ∧
      ∀ f ∈ o.findings, f.severity.rank ≤ s.rank) ∧
    (fragments script = [] → o.Told) ∧
    (fragments script ≠ [] →
      (o.highest? = some .critical ↔ isDangerous parser (trim script) = true) ∧
      (∀ f ∈ fragments script, (analyze parser f).hasCritical = isDangerous parser f) ∧
      ((∀ outline, parser (trim script) ≠ some [outline]) →
        (o.highest? = some .critical ↔
          opensDestructive capitals = true ∨ injected capitals = true) ∧
        (o.Told ↔ ((∃ f ∈ fragments script, isDangerous parser f = true) →
          o.highest? = some .critical)) ∧
        (CommentFree script →
          (o.Told ↔ ((∃ f ∈ fragments script, isDestructive (shapeOf parser f).1 = true) →
            o.highest? = some .critical))))) := by
  intro o capitals
  refine ⟨?_, ?_, fun hsome => ⟨highest?_overview parser hsome,
    fun f hf => hasCritical_of_mem parser hf, fun hseveral => ?_⟩⟩
  · cases hs : o.highest? with
    | none => exact absurd ((highest?_eq_none_iff _).1 hs) (findings_ne_nil parser script)
    | some s => exact ⟨s, rfl, exists_highest hs, le_highest hs⟩
  · -- without statements the review of the whole is repeated as that of the only statement
    intro hnil s hs a ha
    have hstatements : o.statements = [analyze parser script] := by
      show analyzeStatements parser script = _
      unfold analyzeStatements
      rw [hnil]
    rw [hstatements, List.mem_singleton] at ha
    rw [ha]
    exact le_highest hs
  · have hcritical : o.highest? = some .critical ↔
        opensDestructive capitals = true ∨ injected capitals = true := by
      rw [highest?_overview parser hsome, isDangerous_unparsed hseveral, Bool.or_eq_true]
    have htold := told_iff_critical hsome hseveral
    refine ⟨hcritical, htold, fun hfree => ?_⟩
    rw [htold]
    -- an attack in a statement makes the whole script critical, so it need not be asked for
    constructor
    · rintro hall ⟨f, hf, hdestructive⟩
      refine hall ⟨f, hf, ?_⟩
      rw [isDangerous, hdestructive, Bool.true_or]
    · rintro hall ⟨f, hf, hdangerous⟩
      rw [isDangerous, Bool.or_eq_true] at hdangerous
      rcases hdangerous with hdestructive | hattack
      · exact hall ⟨f, hf, hdestructive⟩
      · exact hcritical.2 (.inr (injected_of_mem hfree hf hattack))

/-- A query and, behind it, a statement that empties a table. -/
def emptying : List Char := "SELECT 1; TRUNCATE t".toList

/-- The statement that empties the table is critical, and the highest severity is a warning. -/
theorem emptying_untold :
    let o := overview Sql.read? emptying true
    o.statements.map Analysis.hasCritical = [false, true] ∧ o.highest? = some .warning ∧
      ¬ o.Told := by
  have hstatements : fragments emptying = ["SELECT 1".toList, "TRUNCATE t".toList] := by
    decide +kernel
  have hsome : fragments emptying ≠ [] := by
    rw [hstatements]
    exact List.cons_ne_nil _ _
  have hseveral : ∀ outline, Sql.read? (trim emptying) ≠ some [outline] := by
    have hlength : (Sql.read? (trim emptying)).map List.length = some 2 := by decide +kernel
    intro outline hone
    rw [hone] at hlength
    have hcount : 1 = 2 := Option.some.inj hlength
    exact absurd hcount (by decide)
  have hwarning : (overview Sql.read? emptying true).highest? = some .warning := by
    decide +kernel
  obtain ⟨_, htold, _⟩ := ((highest_told_iff Sql.read? emptying).2.2 hsome).2.2 hseveral
  refine ⟨by decide +kernel, hwarning, fun hall => ?_⟩
  have hcritical := htold.1 hall ⟨"TRUNCATE t".toList, by rw [hstatements]; decide +kernel,
    by decide +kernel⟩
  rw [hwarning] at hcritical
  exact absurd hcritical (by decide)

end ScriptGate.Review
