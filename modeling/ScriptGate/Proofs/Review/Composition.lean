/-
  ScriptGate.Proofs.Review.Composition — what a review is made of.

  A review of a text that is not blank lists what the rules find, between two things that it says
  of itself: in front, that the parser gave up, and at the end, how much was found.  No rule speaks
  of the review, which shows at the first letters of what it says, so neither of the two is ever
  mistaken for a finding of a rule.
  Main statements:
    - `isRemark_of_rules`  — the findings of the rules say nothing of the review itself;
    - `shapeOf_cases`      — the shape is the parser's, or that of the words;
    - `isDangerous_iff`    — which texts are dangerous, shape by shape;
    - `analyze_composed`   — the parts of a review, and when one of them is critical.
-/
import ScriptGate.Proofs.Review.Severity

namespace ScriptGate.Review

open ScriptGate.Text ScriptGate.Statement

/-! ## §1. What a review says of itself -/

/-- Does the finding sum up a review? -/
def IsSummary (f : Finding) : Prop :=
  f.message = "SQL appears safe and efficient." ∨
    ∃ n : Nat, f.message = s!"Analysis completed with {n} observations."

theorem isSummary_summary (found : List Finding) : IsSummary (summary found) := by
  unfold summary
  cases found with
  | nil => exact .inl rfl
  | cons f rest => exact .inr ⟨(f :: rest).length, rfl⟩

/-- The letters that a message begins with. -/
def opening (message : String) : List Char := message.toList.take 3

theorem opening_ofList (cs : List Char) : opening (String.ofList cs) = cs.take 3 := by
  unfold opening
  rw [String.toList_ofList]

/-- What comes behind them has no say in them. -/
theorem opening_append {cs : List Char} (h : 3 ≤ cs.length) (b c : String) :
    opening (String.ofList cs ++ b ++ c) = cs.take 3 := by
  unfold opening
  rw [String.append_assoc, String.toList_append, String.toList_ofList,
    List.take_append_of_le_length h]

/-- How the summaries begin. -/
def summaryOpenings : List (List Char) := [['S', 'Q', 'L'], ['A', 'n', 'a']]

theorem opening_counted (n : Nat) :
    opening s!"Analysis completed with {n} observations." = ['A', 'n', 'a'] :=
  opening_append (by decide) _ _

theorem opening_of_isSummary {f : Finding} (h : IsSummary f) :
    opening f.message ∈ summaryOpenings := by
  rcases h with hsafe | ⟨n, hcounted⟩
  · rw [hsafe, opening_ofList]
    decide
  · rw [hcounted, opening_counted]
    decide

/-- A finding that says nothing of the review itself: it begins neither like a summary nor like
    the warning that the parser gave up. -/
def IsRemark (f : Finding) : Prop := opening f.message ∉ ['U', 's', 'i'] :: summaryOpenings

theorem IsRemark.not_isSummary {f : Finding} (h : IsRemark f) : ¬ IsSummary f :=
  fun hsummary => h (List.mem_cons_of_mem _ (opening_of_isSummary hsummary))

theorem opening_fallback : opening fallbackWarning.message = ['U', 's', 'i'] := opening_ofList _

theorem IsRemark.ne_fallback {f : Finding} (h : IsRemark f) : f ≠ fallbackWarning := by
  intro he
  refine h ?_
  rw [he, opening_fallback]
  exact List.mem_cons_self

theorem fallback_not_isSummary : ¬ IsSummary fallbackWarning := by
  intro hsummary
  have hopening := opening_of_isSummary hsummary
  rw [opening_fallback] at hopening
  exact absurd hopening (by decide)

/-! ## §2. What the rules say -/

/-- What is chosen is among what there is to choose from. -/
theorem forall_chosen {P : Finding → Prop} {rules : List (Bool × Finding)}
    (h : ∀ f ∈ rules.map Prod.snd, P f) : ∀ f ∈ chosen rules, P f := by
  intro f hf
  obtain ⟨⟨applies, g⟩, hrule, hsome⟩ := List.mem_filterMap.1 hf
  cases applies with
  | false => exact absurd hsome (by simp)
  | true =>
    obtain rfl : g = f := Option.some.inj hsome
    exact h g (List.mem_map_of_mem hrule)

section

variable {severity : Severity} {category : Category} {cs : List Char}
  (h : cs.take 3 ∉ ['U', 's', 'i'] :: summaryOpenings)
include h

theorem isRemark_text : IsRemark ⟨severity, category, String.ofList cs⟩ := by
  unfold IsRemark
  rw [opening_ofList]
  exact h

/-- A remark with a number in it. -/
theorem isRemark_numbered (hlength : 3 ≤ cs.length) (b c : String) :
    IsRemark ⟨severity, category, String.ofList cs ++ b ++ c⟩ := by
  unfold IsRemark
  rw [opening_append hlength]
  exact h

end

theorem isRemark_select (s : SelectShape) : ∀ f ∈ selectFindings s, IsRemark f := by
  refine forall_chosen ?_
  intro f hf
  simp only [List.map_cons, List.map_nil, List.mem_cons, List.not_mem_nil, or_false] at hf
  rcases hf with rfl | rfl | rfl | rfl | rfl | rfl
  case inr.inr.inr.inl | inr.inr.inr.inr.inl =>
    exact isRemark_numbered (by decide) (by decide) _ _
  all_goals exact isRemark_text (by decide)

theorem isRemark_insert (s : InsertShape) : ∀ f ∈ insertFindings s, IsRemark f := by
  refine forall_chosen ?_
  intro f hf
  simp only [List.map_cons, List.map_nil, List.mem_cons, List.not_mem_nil, or_false] at hf
  rcases hf with rfl | rfl | rfl
  case inr.inl => exact isRemark_numbered (by decide) (by decide) _ _
  all_goals exact isRemark_text (by decide)

/-- The findings on an UPDATE and on a DELETE. -/
theorem isRemark_filter (f : FilterShape) (capitals : List Char) :
    ∀ g ∈ updateFindings f capitals ++ deleteFindings f, IsRemark g := by
  have hupdate : ∀ g ∈ updateFindings f capitals, IsRemark g := by
    refine forall_chosen ?_
    intro g hg
    simp only [List.map_cons, List.map_nil, List.mem_cons, List.not_mem_nil, or_false] at hg
    rcases hg with rfl | rfl | rfl
    all_goals exact isRemark_text (by decide)
  have hdelete : ∀ g ∈ deleteFindings f, IsRemark g := by
    refine forall_chosen ?_
    intro g hg
    simp only [List.map_cons, List.map_nil, List.mem_cons, List.not_mem_nil, or_false] at hg
    rcases hg with rfl | rfl | rfl
    all_goals exact isRemark_text (by decide)
  exact fun g hg => (List.mem_append.1 hg).elim (hupdate g) (hdelete g)

theorem isRemark_shape (shape : Shape) (capitals : List Char) :
    ∀ f ∈ shapeFindings shape capitals, IsRemark f := by
  cases shape with
  | select s => exact isRemark_select s
  | insert s => exact isRemark_insert s
  | update f => exact fun g hg => isRemark_filter f capitals g (List.mem_append_left _ hg)
  | delete f => exact fun g hg => isRemark_filter f capitals g (List.mem_append_right _ hg)
  | unknown => exact fun g hg => absurd hg List.not_mem_nil
  | alter | drop | truncate | createTable =>
    intro g hg
    simp only [shapeFindings, List.mem_cons, List.not_mem_nil, or_false] at hg
    rcases hg with rfl | rfl
    all_goals exact isRemark_text (by decide)

/-- **The findings of the rules say nothing of the review itself.** -/
theorem isRemark_of_rules (shape : Shape) (capitals : List Char) :
    ∀ f ∈ shapeFindings shape capitals ++ securityFindings capitals ++
      performanceFindings capitals, IsRemark f := by
  have hsecurity : ∀ f ∈ securityFindings capitals, IsRemark f := by
    refine forall_chosen ?_
    intro f hf
    simp only [List.map_cons, List.map_nil, List.mem_cons, List.not_mem_nil, or_false] at hf
    rcases hf with rfl | rfl
    all_goals exact isRemark_text (by decide)
  have hspeed : ∀ f ∈ performanceFindings capitals, IsRemark f := by
    refine forall_chosen ?_
    intro f hf
    simp only [List.map_cons, List.map_nil, List.mem_cons, List.not_mem_nil, or_false] at hf
    rcases hf with rfl | rfl | rfl | rfl
    all_goals exact isRemark_text (by decide)
  intro f hf
  rw [List.mem_append, List.mem_append] at hf
  rcases hf with (hshape | hattack) | hhint
  · exact isRemark_shape shape capitals f hshape
  · exact hsecurity f hattack
  · exact hspeed f hhint

/-! ## §3. The parts of a review -/

section

variable (parser : Parser)

/-- **The shape is that of the only statement that the parser finds, or else that of the words.** -/
theorem shapeOf_cases (statement : List Char) :
    (∃ outline, parser statement = some [outline] ∧
      shapeOf parser statement = (.ofOutline outline (upper statement), true)) ∨
    (∀ outline, parser statement ≠ some [outline]) ∧
      shapeOf parser statement = (.ofText (upper statement), false) := by
  by_cases h : ∃ outline, parser statement = some [outline]
  · obtain ⟨outline, hone⟩ := h
    refine .inl ⟨outline, hone, ?_⟩
    unfold shapeOf Reading.ofText
    rw [hone]
  · have hnone : ∀ outline, parser statement ≠ some [outline] :=
      fun outline hone => h ⟨outline, hone⟩
    exact .inr ⟨hnone, shapeOf_unparsed hnone⟩

theorem isDestructive_iff (shape : Shape) :
    isDestructive shape = true ↔ shape = .drop ∨ shape = .truncate ∨
      ∃ f : FilterShape, (shape = .update f ∨ shape = .delete f) ∧ f.hasWhere = false := by
  cases shape <;> simp [isDestructive]

/-- **Which texts are dangerous, shape by shape.** -/
theorem isDangerous_iff (statement : List Char) :
    isDangerous parser statement = true ↔
      (shapeOf parser statement).1 = .drop ∨ (shapeOf parser statement).1 = .truncate ∨
      (∃ f : FilterShape, ((shapeOf parser statement).1 = .update f ∨
        (shapeOf parser statement).1 = .delete f) ∧ f.hasWhere = false) ∨
      ∃ pattern ∈ injectionPatterns, pattern.occurs (upper statement) = true := by
  rw [isDangerous, Bool.or_eq_true, isDestructive_iff, injected, List.any_eq_true, or_assoc,
    or_assoc]

end

/-- The parts of a review of a text that is not blank: what was found, the summary behind it, and
    the shape that it is about. -/
structure Composed (parser : Parser) (text : List Char) (a : Analysis) (found : List Finding)
    (last : Finding) (shape : Shape) : Prop where
  findings : a.findings = found ++ [last]
  /-- the last finding is a summary, and no other one is -/
  summed : IsSummary last ∧ ∀ f ∈ found, ¬ IsSummary f
  /-- it says how many findings stand before it, -/
  counted : found ≠ [] → last.message = s!"Analysis completed with {found.length} observations."
  /-- or that there are none -/
  safe : last.message = "SQL appears safe and efficient." ↔ found = []
  /-- the warning that the parser gave up stands in front, or nowhere -/
  warned : fallbackWarning ∈ a.findings ↔ a.parsed = false
  first : a.parsed = false →
    ∃ others, a.findings = fallbackWarning :: others ∧ fallbackWarning ∉ others
  /-- a text that is read as one statement has the shape of the statement, -/
  read : a.parsed = true → ∃ outline, parser (trim text) = some [outline] ∧
    shape = .ofOutline outline (upper (trim text))
  /-- and any other one has the shape of its words -/
  unread : a.parsed = false → (∀ outline, parser (trim text) ≠ some [outline]) ∧
    shape = .ofText (upper (trim text))
  classified : a.classification = some shape.classification
  critical : a.hasCritical = true ↔ shape = .drop ∨ shape = .truncate ∨
    (∃ f : FilterShape, (shape = .update f ∨ shape = .delete f) ∧ f.hasWhere = false) ∨
    ∃ pattern ∈ injectionPatterns, pattern.occurs (upper (trim text)) = true
  highest : highest? a.findings = some .critical ↔ a.hasCritical = true

section

variable (shape : Shape) (parsed : Bool) (capitals : List Char)

/-- In front of the findings of the rules stands the warning that the parser gave up, if it did. -/
theorem observations_cases :
    ∃ rules, (∀ f ∈ rules, IsRemark f) ∧
      (parsed = true ∧ observations shape parsed capitals = rules ∨
        parsed = false ∧ observations shape parsed capitals = fallbackWarning :: rules) := by
  refine ⟨_, isRemark_of_rules shape capitals, ?_⟩
  cases parsed with
  | true => exact .inl ⟨rfl, rfl⟩
  | false => exact .inr ⟨rfl, rfl⟩

theorem not_isSummary_observations :
    ∀ f ∈ observations shape parsed capitals, ¬ IsSummary f := by
  intro f hf
  obtain ⟨rules, hrules, ⟨_, hfound⟩ | ⟨_, hfound⟩⟩ := observations_cases shape parsed capitals
  · rw [hfound] at hf
    exact (hrules f hf).not_isSummary
  · rw [hfound, List.mem_cons] at hf
    rcases hf with rfl | hrule
    · exact fallback_not_isSummary
    · exact (hrules f hrule).not_isSummary

/-- The warning stands in front, or nowhere. -/
theorem fallback_observations (last : Finding) (hlast : last ≠ fallbackWarning) :
    let findings := observations shape parsed capitals ++ [last]
    (parsed = true ∧ fallbackWarning ∉ findings) ∨
      parsed = false ∧ ∃ others, findings = fallbackWarning :: others ∧
        fallbackWarning ∉ others := by
  intro findings
  obtain ⟨rules, hrules, hcases⟩ := observations_cases shape parsed capitals
  -- neither a rule nor the summary says what the warning says
  have hothers : fallbackWarning ∉ rules ++ [last] := by
    rw [List.mem_append, List.mem_singleton]
    intro hmem
    rcases hmem with hrule | hsame
    · exact (hrules _ hrule).ne_fallback rfl
    · exact hlast hsame.symm
  have hfindings : findings = observations shape parsed capitals ++ [last] := rfl
  rcases hcases with ⟨hparsed, hfound⟩ | ⟨hparsed, hfound⟩
  · rw [hfindings, hfound]
    exact .inl ⟨hparsed, hothers⟩
  · rw [hfindings, hfound]
    exact .inr ⟨hparsed, _, rfl, hothers⟩

end

theorem summary_ne_fallback (found : List Finding) : summary found ≠ fallbackWarning := by
  intro he
  exact fallback_not_isSummary (he ▸ isSummary_summary found)

theorem summary_counted {found : List Finding} (h : found ≠ []) :
    (summary found).message = s!"Analysis completed with {found.length} observations." := by
  cases found with
  | nil => exact absurd rfl h
  | cons f rest => rfl

theorem summary_safe_iff (found : List Finding) :
    (summary found).message = "SQL appears safe and efficient." ↔ found = [] := by
  constructor
  · intro hsafe
    by_cases h : found = []
    · exact h
    · -- the other summary begins with another letter
      have hopening := opening_counted found.length
      rw [← summary_counted h, hsafe, opening_ofList] at hopening
      exact absurd hopening (by decide)
  · intro hnil
    rw [hnil]
    rfl

/-- A review of a text that is not blank has these parts. -/
theorem composed_of_shapeOf (parser : Parser) {text : List Char} (h : trim text ≠ [])
    {shape : Shape} {parsed : Bool} (hshaped : shapeOf parser (trim text) = (shape, parsed)) :
    let found := observations shape parsed (upper (trim text))
    Composed parser text (analyze parser text) found (summary found) shape := by
  intro found
  have hanalysis : analyze parser text
      = ⟨trim text, some shape.classification, parsed, found ++ [summary found]⟩ := by
    rw [analyze_eq parser h, hshaped]
  have hfindings : (analyze parser text).findings = found ++ [summary found] :=
    congrArg Analysis.findings hanalysis
  have hparsed : (analyze parser text).parsed = parsed := congrArg Analysis.parsed hanalysis
  have hfallback := fallback_observations shape parsed (upper (trim text)) (summary found)
    (summary_ne_fallback found)
  have hcases := shapeOf_cases parser (trim text)
  have hcritical := isDangerous_iff parser (trim text)
  rw [← hasCritical_analyze parser h, hshaped] at hcritical
  rw [hshaped] at hcases
  -- what is left is where the note of the parser stands, and where the shape comes from
  refine ⟨hfindings, ⟨isSummary_summary found, not_isSummary_observations _ _ _⟩,
    summary_counted, summary_safe_iff found, ?_, ?_, ?_, ?_,
    congrArg Analysis.classification hanalysis, hcritical, highest?_eq_critical_iff _⟩
  · rw [hfindings, hparsed]
    rcases hfallback with ⟨htrue, hnone⟩ | ⟨hfalse, others, hfirst, _⟩
    · exact iff_of_false hnone (by rw [htrue]; decide)
    · exact iff_of_true (by rw [hfirst]; exact List.mem_cons_self) hfalse
  · intro hfalse
    rcases hfallback with ⟨htrue, _⟩ | ⟨_, hfirst⟩
    · exact absurd (hfalse.symm.trans (hparsed.trans htrue)) Bool.false_ne_true
    · rw [hfindings]
      exact hfirst
  · intro htrue
    rcases hcases with ⟨outline, hone, hsame⟩ | ⟨_, hsame⟩
    · exact ⟨outline, hone, (Prod.mk.inj hsame).1⟩
    · have hfalse := (Prod.mk.inj hsame).2
      exact absurd (hfalse.symm.trans (hparsed.symm.trans htrue)) Bool.false_ne_true
  · intro hfalse
    rcases hcases with ⟨outline, _, hsame⟩ | ⟨hnone, hsame⟩
    · have htrue := (Prod.mk.inj hsame).2
      exact absurd (hfalse.symm.trans (hparsed.trans htrue)) Bool.false_ne_true
    · exact ⟨hnone, (Prod.mk.inj hsame).1⟩

/-- **What a review is made of.**  A blank text has one remark and no classification, and nothing
    about it is critical.  The review of any other text has its summary at the end and nowhere
    else, which counts the findings before it; the warning that the parser gave up in front,
    exactly if it did; the shape of the only statement that the parser finds, or else that of the
    words; and something critical exactly if this shape removes a definition or touches every row
    of a table, or if the text looks like an attack. -/
theorem analyze_composed (parser : Parser) (text : List Char) :
    let a := analyze parser text
    (text.all isBlank = true →
      a.findings = [blankRemark] ∧ blankRemark.severity = .info ∧ a.classification = none ∧
        a.hasCritical = false ∧ highest? a.findings = some .info) ∧
    (text.all isBlank = false →
      ∃ found last shape, Composed parser text a found last shape) := by
  intro a
  refine ⟨?_, ?_⟩
  · intro hblank
    have ha : a = ⟨[], none, false, [blankRemark]⟩ := analyze_blank parser hblank
    rw [ha]
    exact ⟨rfl, rfl, rfl, rfl, rfl⟩
  · intro hsome
    have hne : trim text ≠ [] := by
      rw [Ne, trim_nil_iff, hsome]
      exact Bool.false_ne_true
    exact ⟨_, _, _, composed_of_shapeOf parser hne rfl⟩

/-- A statement that changes every row of a table. -/
def sweeping : List Char := "update t set a = 1".toList

/-- Its review is parsed and critical, and its summary counts two findings. -/
theorem sweeping_composed :
    [' '].all isBlank = true ∧ (analyze Sql.read? [' ']).findings = [blankRemark] ∧
    sweeping.all isBlank = false ∧
    ∃ found last shape, Composed Sql.read? sweeping (analyze Sql.read? sweeping) found last shape ∧
      found.length = 2 ∧ shape = .update ⟨false, false⟩ ∧
      (analyze Sql.read? sweeping).hasCritical = true := by
  have hblank : [' '].all isBlank = true := by decide
  have hsome : sweeping.all isBlank = false := by decide +kernel
  have hlength : (analyze Sql.read? sweeping).findings.length = 3 := by decide +kernel
  have hparsed : (analyze Sql.read? sweeping).parsed = true := by decide +kernel
  obtain ⟨found, last, shape, hcomposed⟩ := (analyze_composed Sql.read? sweeping).2 hsome
  have hshape : shape = .update ⟨false, false⟩ := by
    obtain ⟨outline, hone, hshape⟩ := hcomposed.read hparsed
    have hread : Sql.read? (trim sweeping) = some [.update false] := by decide +kernel
    rw [hread] at hone
    obtain rfl : Sql.Outline.update false = outline := (List.cons.inj (Option.some.inj hone)).1
    rw [hshape]
    decide +kernel
  refine ⟨hblank, ((analyze_composed Sql.read? [' ']).1 hblank).1, hsome, found, last, shape,
    hcomposed, ?_, hshape, ?_⟩
  · rw [hcomposed.findings, List.length_append] at hlength
    exact Nat.succ.inj hlength
  · exact hcomposed.critical.2 (.inr (.inr (.inl ⟨⟨false, false⟩, .inl hshape, rfl⟩)))

end ScriptGate.Review
