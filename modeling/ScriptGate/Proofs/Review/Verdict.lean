/-
  ScriptGate.Proofs.Review.Verdict — what the validation of a script comes to, and what it asks.

  A script is fit if it has statements and each of them passes: it opens with an allowed keyword,
  nothing in it looks like an attack, and if it is a query that the parser gives up on, the planner
  takes it.  The first statement that does not pass decides, and no statement behind it is looked
  at.  The planner is asked about queries and about nothing else, and no statement is run.
  Main statements:
    - `opensAllowed_iff`         — which statements open with an allowed keyword;
    - `validateStatement_decides` — one statement;
    - `validateAll_decides`      — statements in their order, up to the one that decides;
    - `validate_decides`         — the validation of a script.
-/
import Mathlib.Data.List.Induction
import ScriptGate.Proofs.Script.Cover
import ScriptGate.Proofs.Text.Capital
import ScriptGate.Review.Validation

namespace ScriptGate.Review

open ScriptGate.Script ScriptGate.Statement ScriptGate.Text

/-! ## §1. Statements that pass -/

/-- A statement opens with a keyword, whatever the case of its letters, and a blank. -/
def OpensWith (keyword : String) (statement : List Char) : Prop :=
  ∃ blank rest, isBlank blank = true ∧ upper statement = keyword.toList ++ blank :: rest

/-- A statement opens with one of the allowed keywords. -/
def OpensAllowed (statement : List Char) : Prop :=
  ∃ keyword ∈ allowedKeywords, OpensWith keyword statement

/-- Nothing in a statement looks like an attack. -/
def Clean (statement : List Char) : Prop :=
  ∀ p ∈ suspiciousPatterns, p.occurs statement = false

/-- A statement passes in a state of the database. -/
structure Passes (parser : Parser) (db : Database σ) (s : σ) (statement : List Char) : Prop where
  opens : OpensAllowed statement
  clean : Clean statement
  understood : (parser statement).isSome = true ∨ ¬ OpensWith "SELECT" statement ∨
    (db.explain statement s).1 = .ok ()

/-- Why a statement does not pass: the first of the rules that it breaks. -/
inductive Refused (parser : Parser) (db : Database σ) (s : σ) (statement : List Char) :
    Fault → Prop where
  | keyword : ¬ OpensAllowed statement → Refused parser db s statement keywordFault
  | pattern : OpensAllowed statement → ¬ Clean statement →
      Refused parser db s statement patternFault
  | planner {cause : Fault} : OpensWith "SELECT" statement → Clean statement →
      parser statement = none → (db.explain statement s).1 = .error cause →
      Refused parser db s statement (syntaxFault cause)

/-! ## §2. Questions to the planner -/

/-- What the planner is asked. -/
def plannerCall (statement : List Char) : Database.Call :=
  .execute ("EXPLAIN ".toList ++ statement)

/-- Is the planner asked about a statement? -/
def isPlanned (parser : Parser) (statement : List Char) : Bool :=
  (inspect statement).isNone && needsPlanner parser statement

/-- The statements that the planner is asked about. -/
def planned (parser : Parser) (statements : List (List Char)) : List (List Char) :=
  statements.filter (isPlanned parser)

/-- The state behind the planner's answers. -/
def stateBehind (db : Database σ) (queries : List (List Char)) (s : σ) : σ :=
  queries.foldl (fun s query => (db.explain query s).2) s

/-- Each of the statements passes in the state that the questions about those in front of it leave
    behind. -/
def PassAll (parser : Parser) (db : Database σ) : σ → List (List Char) → Prop
  | _, [] => True
  | s, statement :: rest =>
    Passes parser db s statement ∧
      PassAll parser db (stateBehind db (planned parser [statement]) s) rest

/-- What the validation of some statements comes to, and the statements that it looks at. -/
inductive Verdict (parser : Parser) (db : Database σ) (s : σ) (statements : List (List Char)) :
    Except Fault Unit → List (List Char) → Prop where
  | passed : PassAll parser db s statements → Verdict parser db s statements (.ok ()) statements
  | refused (front back : List (List Char)) {statement : List Char} {fault : Fault} :
      statements = front ++ statement :: back → PassAll parser db s front →
      Refused parser db (stateBehind db (planned parser front) s) statement fault →
      Verdict parser db s statements (.error fault) (front ++ [statement])

/-! ## §3. Openings -/

/-- The allowed keywords are words. -/
theorem allowedKeywords_plain : ∀ keyword ∈ allowedKeywords, keyword.toList ≠ [] ∧
    keyword.toList.all (fun c => decide (endsKeyword c = false)) = true := by
  decide

theorem leadingWord_of_opensWith {keyword : String} (hkeyword : keyword ∈ allowedKeywords)
    {statement : List Char} (h : OpensWith keyword statement) :
    leadingWord (upper statement) = keyword.toList := by
  obtain ⟨hne, hplain⟩ := allowedKeywords_plain keyword hkeyword
  obtain ⟨blank, rest, hblank, hupper⟩ := h
  have hends : endsKeyword blank = true := by
    unfold endsKeyword
    rw [hblank, Bool.true_or]
  rw [hupper]
  exact leadingWord_upto hne (forall_of_all hplain) hends rest

section

variable {statement : List Char} (h : statement.head?.any isBlank = false)
include h

/-- A blank behind the opening word makes it a keyword. -/
theorem opensWith_iff {keyword : String} (hkeyword : keyword ∈ allowedKeywords) :
    OpensWith keyword statement ↔ leadingKeyword (upper statement) = keyword.toList ∧
      ((upper statement).drop (leadingWord (upper statement)).length).head?.any isBlank = true := by
  constructor
  · -- the blank ends the word, and no other character of the keyword does
    intro hopens
    have hword := leadingWord_of_opensWith hkeyword hopens
    obtain ⟨blank, rest, hblank, hupper⟩ := hopens
    refine ⟨(leadingKeyword_upper h).trans hword, ?_⟩
    rw [hword, hupper, List.drop_left]
    exact hblank
  · -- the opening word is in capitals already, so it is the keyword letter by letter
    rintro ⟨hleading, hbehind⟩
    rw [leadingKeyword_upper h] at hleading
    have hsplit := List.prefix_iff_eq_append.1 (leadingWord_leads h)
    cases hrest : (upper statement).drop (leadingWord (upper statement)).length with
    | nil =>
      rw [hrest] at hbehind
      exact absurd hbehind Bool.false_ne_true
    | cons blank rest =>
      rw [hrest] at hbehind hsplit
      rw [hleading] at hsplit
      exact ⟨blank, rest, hbehind, hsplit.symm⟩

/-- **Which statements open with an allowed keyword**: a statement in capitals does, if one of the
    keywords and a blank stand at its front. -/
theorem opensAllowed_iff : opensAllowed (upper statement) = true ↔ OpensAllowed statement := by
  unfold opensAllowed
  rw [Bool.and_eq_true, List.contains_iff_mem]
  constructor
  · rintro ⟨hkeyword, hbehind⟩
    refine ⟨_, hkeyword, (opensWith_iff h hkeyword).2 ⟨?_, hbehind⟩⟩
    rw [String.toList_ofList]
  · rintro ⟨keyword, hkeyword, hopens⟩
    obtain ⟨hleading, hbehind⟩ := (opensWith_iff h hkeyword).1 hopens
    rw [hleading, String.ofList_toList]
    exact ⟨hkeyword, hbehind⟩

omit h in
theorem isSuspicious_eq_false_iff : isSuspicious statement = false ↔ Clean statement := by
  unfold isSuspicious Clean
  simp only [List.any_eq_false, Bool.not_eq_true]

/-- What is wrong with a statement on sight. -/
theorem inspect_eq :
    (OpensAllowed statement ∧ Clean statement ∧ inspect statement = none) ∨
    (¬ OpensAllowed statement ∧ inspect statement = some keywordFault) ∨
    (OpensAllowed statement ∧ ¬ Clean statement ∧ inspect statement = some patternFault) := by
  rw [← opensAllowed_iff h, ← isSuspicious_eq_false_iff]
  unfold inspect
  cases opensAllowed (upper statement) <;> cases isSuspicious statement <;> simp

/-- The planner is asked about the queries that the parser gives up on, if nothing is wrong with
    them on sight. -/
theorem isPlanned_iff (parser : Parser) : isPlanned parser statement = true ↔
    OpensWith "SELECT" statement ∧ Clean statement ∧ parser statement = none := by
  have hselect : "SELECT" ∈ allowedKeywords := by decide
  unfold isPlanned needsPlanner
  rw [Bool.and_eq_true, Bool.and_eq_true, beq_iff_eq, Option.isNone_iff_eq_none,
    Option.isNone_iff_eq_none]
  -- on sight there is nothing wrong exactly if the word is allowed and the text is clean
  constructor
  · rintro ⟨hnone, hparser, hleading⟩
    rcases inspect_eq h with ⟨⟨keyword, hkeyword, hopens⟩, hclean, -⟩ | ⟨-, hsome⟩ | ⟨-, -, hsome⟩
    · have hbehind := ((opensWith_iff h hkeyword).1 hopens).2
      exact ⟨(opensWith_iff h hselect).2 ⟨hleading, hbehind⟩, hclean, hparser⟩
    · rw [hsome] at hnone
      exact absurd hnone (Option.some_ne_none _)
    · rw [hsome] at hnone
      exact absurd hnone (Option.some_ne_none _)
  · rintro ⟨hopens, hclean, hparser⟩
    have hallowed : OpensAllowed statement := ⟨_, hselect, hopens⟩
    refine ⟨?_, hparser, ((opensWith_iff h hselect).1 hopens).1⟩
    rcases inspect_eq h with ⟨-, -, hnone⟩ | ⟨hnot, -⟩ | ⟨-, hnot, -⟩
    · exact hnone
    · exact absurd hallowed hnot
    · exact absurd hclean hnot

end

/-! ## §4. Statements in their order -/

theorem stateBehind_append (db : Database σ) (front back : List (List Char)) (s : σ) :
    stateBehind db (front ++ back) s = stateBehind db back (stateBehind db front s) :=
  List.foldl_append ..

/-- A statement does not pass exactly if there is a reason. -/
theorem passes_iff {parser : Parser} {db : Database σ} {s : σ} {statement : List Char} :
    Passes parser db s statement ↔ ∀ fault, ¬ Refused parser db s statement fault := by
  constructor
  · rintro ⟨hopens, hclean, hunderstood⟩ fault hrefused
    cases hrefused with
    | keyword hnot => exact hnot hopens
    | pattern _ hnot => exact hnot hclean
    | planner hselect _ hparser hanswer =>
      rcases hunderstood with hsome | hnot | hok
      · rw [hparser] at hsome
        exact Bool.false_ne_true hsome
      · exact hnot hselect
      · rw [hok] at hanswer
        cases hanswer
  · intro hnone
    have hopens : OpensAllowed statement := Classical.not_not.1 fun hnot => hnone _ (.keyword hnot)
    have hclean : Clean statement :=
      Classical.not_not.1 fun hnot => hnone _ (.pattern hopens hnot)
    refine ⟨hopens, hclean, ?_⟩
    -- only a query that the parser gives up on is left to the planner
    cases hparser : parser statement with
    | some _ => exact .inl rfl
    | none =>
      by_cases hselect : OpensWith "SELECT" statement
      · cases hanswer : (db.explain statement s).1 with
        | ok _ => exact .inr (.inr rfl)
        | error cause => exact absurd (.planner hselect hclean hparser hanswer) (hnone _)
      · exact .inr (.inl hselect)

section

variable (parser : Parser) (db : Database σ)

/-- A question to the planner is one call. -/
theorem validateStatement_logged (statement : List Char) (s : σ) (log : List Database.Call) :
    validateStatement parser db.logged statement (s, log) =
      match inspect statement with
      | some fault => (.error fault, s, log)
      | none =>
        if needsPlanner parser statement then
          ((db.explain statement s).1.mapError syntaxFault, (db.explain statement s).2,
            plannerCall statement :: log)
        else (.ok (), s, log) := by
  unfold validateStatement
  cases inspect statement with
  | some fault => rfl
  | none =>
    dsimp only
    split <;> rfl

/-- **One statement**: whether it passes, why not, and what is asked. -/
theorem validateStatement_decides {statement : List Char}
    (h : statement.head?.any isBlank = false) (s : σ) (log : List Database.Call) :
    let r := validateStatement parser db.logged statement (s, log)
    ((r.1 = .ok () ∧ Passes parser db s statement) ∨
      ∃ fault, r.1 = .error fault ∧ Refused parser db s statement fault) ∧
    r.2 = (stateBehind db (planned parser [statement]) s,
      ((planned parser [statement]).map plannerCall).reverse ++ log) := by
  intro r
  have hr : r = _ := validateStatement_logged parser db statement s log
  have hplanned := isPlanned_iff h parser
  have hisPlanned : isPlanned parser statement
      = ((inspect statement).isNone && needsPlanner parser statement) := rfl
  have hunasked : isPlanned parser statement = false → planned parser [statement] = [] :=
    fun hnot => List.filter_cons_of_neg (Bool.eq_false_iff.1 hnot)
  rcases inspect_eq h with ⟨hopens, hclean, hinspect⟩ | ⟨hnot, hinspect⟩ | ⟨hopens, hnot, hinspect⟩
  · rw [hinspect] at hr hisPlanned
    cases hneeds : needsPlanner parser statement with
    | true =>
      rw [hneeds] at hr hisPlanned
      obtain ⟨hselect, -, hparser⟩ := hplanned.1 hisPlanned
      have hasked : planned parser [statement] = [statement] := List.filter_cons_of_pos hisPlanned
      rw [hasked, hr]
      refine ⟨?_, rfl⟩
      cases hanswer : (db.explain statement s).1 with
      | ok _ => exact .inl ⟨rfl, hopens, hclean, .inr (.inr hanswer)⟩
      | error cause => exact .inr ⟨_, rfl, .planner hselect hclean hparser hanswer⟩
    | false =>
      rw [hneeds] at hr hisPlanned
      rw [hunasked hisPlanned, hr]
      refine ⟨.inl ⟨rfl, passes_iff.2 fun fault hrefused => ?_⟩, rfl⟩
      -- without a question there is no reason left
      cases hrefused with
      | keyword hnot => exact hnot hopens
      | pattern _ hnot => exact hnot hclean
      | planner hselect _ hparser _ =>
        exact Bool.eq_false_iff.1 hisPlanned (hplanned.2 ⟨hselect, hclean, hparser⟩)
  · rw [hinspect] at hr hisPlanned
    rw [hunasked hisPlanned, hr]
    exact ⟨.inr ⟨_, rfl, .keyword hnot⟩, rfl⟩
  · rw [hinspect] at hr hisPlanned
    rw [hunasked hisPlanned, hr]
    exact ⟨.inr ⟨_, rfl, .pattern hopens hnot⟩, rfl⟩

theorem validateAll_cons (statement : List Char) (rest : List (List Char)) (s : σ) :
    validateAll parser db (statement :: rest) s =
      match validateStatement parser db statement s with
      | (.ok (), s) => validateAll parser db rest s
      | (.error fault, s) => (.error fault, s) := by
  simp only [validateAll, bind, StateT.bind]
  rcases validateStatement parser db statement s with ⟨_ | _, s⟩ <;> rfl

/-- The questions about the first statement come before those about the rest. -/
theorem planned_cons (statement : List Char) (rest : List (List Char)) :
    planned parser (statement :: rest) = planned parser [statement] ++ planned parser rest :=
  List.filter_append [statement] rest

/-- What is decided behind a statement that passes is decided with it in front. -/
theorem Verdict.cons {statement : List Char} {rest seen : List (List Char)} {s : σ}
    {result : Except Fault Unit} (hpasses : Passes parser db s statement)
    (h : Verdict parser db (stateBehind db (planned parser [statement]) s) rest result seen) :
    Verdict parser db s (statement :: rest) result (statement :: seen) := by
  cases h with
  | passed hall => exact .passed ⟨hpasses, hall⟩
  | refused front back hrest hall hrefused =>
    rw [← stateBehind_append, ← planned_cons] at hrefused
    rw [hrest]
    exact .refused (statement :: front) back rfl ⟨hpasses, hall⟩ hrefused

/-- **Statements in their order**: the first that does not pass decides. -/
theorem validateAll_decides {statements : List (List Char)}
    (h : ∀ statement ∈ statements, statement.head?.any isBlank = false) :
    ∀ (s : σ) (log : List Database.Call),
      let r := validateAll parser db.logged statements (s, log)
      ∃ seen, Verdict parser db s statements r.1 seen ∧
        r.2 = (stateBehind db (planned parser seen) s,
          ((planned parser seen).map plannerCall).reverse ++ log) := by
  -- the state and the log that the rest starts from are those behind the first question
  induction statements with
  | nil => exact fun s log => ⟨[], .passed trivial, rfl⟩
  | cons statement rest ih =>
    intro s log r
    have hr : r = _ := validateAll_cons parser db.logged statement rest (s, log)
    obtain ⟨hdecided, hbehind⟩ :=
      validateStatement_decides parser db (h statement List.mem_cons_self) s log
    rw [← Prod.eta (validateStatement parser db.logged statement (s, log)), hbehind] at hr
    rcases hdecided with ⟨hok, hpasses⟩ | ⟨fault, herror, hrefused⟩
    · rw [hok] at hr
      obtain ⟨seen, hverdict, hends⟩ := ih (fun f hf => h f (List.mem_cons_of_mem _ hf)) _ _
      rw [hr]
      refine ⟨statement :: seen, hverdict.cons parser db hpasses, ?_⟩
      rw [planned_cons parser statement seen, stateBehind_append, List.map_append,
        List.reverse_append, List.append_assoc]
      exact hends
    · rw [herror] at hr
      rw [hr]
      exact ⟨[statement], .refused [] rest rfl trivial hrefused, rfl⟩

/-- Statements pass in two goes. -/
theorem passAll_append (front back : List (List Char)) :
    ∀ s : σ, PassAll parser db s (front ++ back) ↔ PassAll parser db s front ∧
      PassAll parser db (stateBehind db (planned parser front) s) back := by
  induction front with
  | nil =>
    intro s
    show _ ↔ True ∧ _
    rw [true_and]
    rfl
  | cons statement rest ih =>
    intro s
    show Passes parser db s statement ∧ PassAll parser db _ (rest ++ back) ↔
      (Passes parser db s statement ∧ PassAll parser db _ rest) ∧ _
    rw [ih, planned_cons parser statement rest, stateBehind_append, and_assoc]

variable {parser db} in
/-- Only if all statements pass they come out as fit. -/
theorem Verdict.ok_iff {s : σ} {statements seen : List (List Char)} {result : Except Fault Unit}
    (h : Verdict parser db s statements result seen) :
    result = .ok () ↔ PassAll parser db s statements := by
  cases h with
  | passed hall => exact iff_of_true rfl hall
  | refused front back hstatements _ hrefused =>
    refine iff_of_false nofun fun hall => ?_
    rw [hstatements, passAll_append] at hall
    -- the statement that was refused would have to pass in the same state
    obtain ⟨-, hpasses, -⟩ := hall
    exact passes_iff.1 hpasses _ hrefused

variable {parser db} in
/-- Nothing is looked at but the statements. -/
theorem Verdict.mem_of_seen {s : σ} {statements seen : List (List Char)}
    {result : Except Fault Unit} (h : Verdict parser db s statements result seen) :
    ∀ statement ∈ seen, statement ∈ statements := by
  cases h with
  | passed _ => exact fun _ hmem => hmem
  | @refused front back first _ hstatements _ _ =>
    have hprefix : front ++ [first] <+: statements :=
      ⟨back, by rw [hstatements, List.append_assoc, List.singleton_append]⟩
    exact fun _ hmem => hprefix.mem hmem

end

/-! ## §5. Scripts -/

/-- **The validation of a script.**  It succeeds exactly if there are statements and each of them
    passes.  Otherwise its fault is that of the first statement that does not pass, and no statement
    behind that one is looked at.  Of the statements that are looked at the planner is asked about
    those that it has to be asked about, one after the other, and nothing else is asked. -/
theorem validate_decides (parser : Parser) (db : Database σ) (script : List Char) (s : σ) :
    let r := validate parser db.logged script (s, [])
    (r.1 = .ok () ↔ fragments script ≠ [] ∧ PassAll parser db s (fragments script)) ∧
    (fragments script = [] → r = (.error emptyFault, s, [])) ∧
    (fragments script ≠ [] → ∃ seen, Verdict parser db s (fragments script) r.1 seen ∧
      r.2.1 = stateBehind db (planned parser seen) s ∧
      r.2.2.reverse = (planned parser seen).map plannerCall) ∧
    (∀ f ∈ fragments script, isPlanned parser f = true ↔
      OpensWith "SELECT" f ∧ Clean f ∧ parser f = none) ∧
    ∀ call ∈ r.2.2, ∃ f ∈ fragments script, OpensWith "SELECT" f ∧ call = plannerCall f := by
  intro r
  have hends : ∀ f ∈ fragments script, f.head?.any isBlank = false :=
    fun f hf => (ends_of_mem hf).2.1
  have hplanned : ∀ f ∈ fragments script, isPlanned parser f = true ↔
      OpensWith "SELECT" f ∧ Clean f ∧ parser f = none :=
    fun f hf => isPlanned_iff (hends f hf) parser
  cases hscript : fragments script with
  | nil =>
    -- without statements nothing is asked
    have hr : r = (.error emptyFault, s, []) := by
      show validate parser db.logged script (s, []) = _
      unfold validate
      rw [hscript]
      rfl
    rw [hr]
    refine ⟨iff_of_false nofun fun hpass => hpass.1 rfl, fun _ => rfl,
      fun hne => absurd rfl hne, ?_, ?_⟩
    · exact fun f hf => absurd hf List.not_mem_nil
    · exact fun call hcall => absurd hcall List.not_mem_nil
  | cons first rest =>
    have hne : fragments script ≠ [] := by
      rw [hscript]
      exact List.cons_ne_nil first rest
    have hr : r = validateAll parser db.logged (fragments script) (s, []) := by
      show validate parser db.logged script (s, []) = _
      unfold validate
      rw [hscript]
    -- the log is empty at first, so it holds what the statements are asked about only
    obtain ⟨seen, hverdict, hbehind⟩ := validateAll_decides parser db hends s []
    rw [← hr, List.append_nil] at hbehind
    rw [← hr] at hverdict
    rw [← hscript]
    refine ⟨?_, fun hnil => absurd hnil hne, fun _ => ⟨seen, hverdict, ?_, ?_⟩, hplanned, ?_⟩
    · rw [hverdict.ok_iff]
      exact (and_iff_right hne).symm
    · rw [hbehind]
    · rw [hbehind, List.reverse_reverse]
    · intro call hcall
      rw [hbehind, List.mem_reverse] at hcall
      obtain ⟨f, hf, rfl⟩ := List.mem_map.1 hcall
      obtain ⟨hseen, hisPlanned⟩ := List.mem_filter.1 hf
      have hmem := hverdict.mem_of_seen f hseen
      exact ⟨f, hmem, ((hplanned f hmem).1 hisPlanned).1, rfl⟩

/-- A database that plans one query and no more. -/
def soleQuery : Database Nat where
  ask
    | .columns _ => fun n => (.ok [], n + 1)
    | .execute _ => fun n => (if n = 0 then .ok () else .error ⟨.database, "no"⟩, n + 1)
    | .counted _ => fun n => (.ok (0 : UInt64), n + 1)
    | .query .. => fun n => (.ok [], n + 1)

/-- The second of three statements decides: the planner is asked about the two queries, and the
    third statement, which opens with no keyword, is not looked at. -/
theorem second_query_decides :
    let script := "SELECT 1;\nselect x FROM; GRANT ALL ON t TO u".toList
    let r := validate (fun _ => none) soleQuery.logged script (0, [])
    fragments script ≠ [] ∧ ¬ PassAll (fun _ => none) soleQuery 0 (fragments script) ∧
    r.1 = .error (syntaxFault ⟨.database, "no"⟩) ∧
    (∃ seen, Verdict (fun _ => none) soleQuery 0 (fragments script) r.1 seen) ∧
    r.2.2.reverse = [plannerCall "SELECT 1".toList, plannerCall "select x FROM".toList] := by
  -- over variables, so that no script is validated to compare two validations
  have key : ∀ {script : List Char} {fault : Fault}, fragments script ≠ [] →
      (validate (fun _ => none) soleQuery.logged script (0, [])).1 = .error fault →
      ¬ PassAll (fun _ => none) soleQuery 0 (fragments script) ∧
      ∃ seen, Verdict (fun _ => none) soleQuery 0 (fragments script)
        (validate (fun _ => none) soleQuery.logged script (0, [])).1 seen := by
    intro script fault hne herror
    obtain ⟨hok, -, hverdict, -⟩ := validate_decides (fun _ => none) soleQuery script 0
    obtain ⟨seen, hseen, -⟩ := hverdict hne
    refine ⟨fun hall => ?_, seen, hseen⟩
    rw [hok.2 ⟨hne, hall⟩] at herror
    cases herror
  have hne : fragments "SELECT 1;\nselect x FROM; GRANT ALL ON t TO u".toList ≠ [] := by
    decide +kernel
  have herror : (validate (fun _ => none) soleQuery.logged
      "SELECT 1;\nselect x FROM; GRANT ALL ON t TO u".toList (0, [])).1
        = .error (syntaxFault ⟨.database, "no"⟩) := by
    decide +kernel
  have hcalls : (validate (fun _ => none) soleQuery.logged
      "SELECT 1;\nselect x FROM; GRANT ALL ON t TO u".toList (0, [])).2.2.reverse
        = [plannerCall "SELECT 1".toList, plannerCall "select x FROM".toList] := by
    decide +kernel
  obtain ⟨hnot, hseen⟩ := key hne herror
  exact ⟨hne, hnot, herror, hseen, hcalls⟩

end ScriptGate.Review
