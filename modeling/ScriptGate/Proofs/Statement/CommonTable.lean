/-
  ScriptGate.Proofs.Statement.CommonTable — statements behind a common table expression.

  A statement that adds, changes or removes rows may have a common table expression in front.  The
  kind of a statement goes by its opening word, so with such a clause in front it is taken for a
  query, whatever its verb is: a run does not count its rows, and a preview runs it.  Without the
  clause it is counted, and no preview runs it.
  Main statements:
    - `kindOf_text`        — the kind of a statement with or without such a clause;
    - `run_text`           — a run at such a statement;
    - `preview_text`       — a preview of such a statement;
    - `clause_hides_verb`  — what runs and previews do with the statement.
-/
import ScriptGate.Proofs.Deployment.Sequence
import ScriptGate.Proofs.Script.Cover
import ScriptGate.Proofs.Script.Identifier
import ScriptGate.Proofs.Text.Capital
import ScriptGate.Service.Preview

namespace ScriptGate.Statement

open ScriptGate.Deployment ScriptGate.Script ScriptGate.Service ScriptGate.Text

/-! ## §1. Statements that change rows -/

/-- How deep in parentheses a text ends that starts at this depth; nothing if it closes one that is
    not open. -/
def depthBehind : Nat → List Char → Option Nat
  | depth, [] => some depth
  | depth, '(' :: rest => depthBehind (depth + 1) rest
  | 0, ')' :: _ => none
  | depth + 1, ')' :: rest => depthBehind depth rest
  | depth, _ :: rest => depthBehind depth rest

/-- Are the parentheses of a text balanced? -/
def isBalanced (text : List Char) : Bool := depthBehind 0 text == some 0

/-- Blanks, at least one. -/
structure Gap where
  /-- the first blank -/
  first : Char
  /-- those behind it -/
  more : List Char
  isBlank_first : isBlank first = true
  isBlank_more : more.all isBlank = true

/-- The blanks. -/
def Gap.text (g : Gap) : List Char := g.first :: g.more

/-- A word, whatever the case of its letters. -/
structure Spelling (word : String) where
  /-- the word as it is written -/
  text : List Char
  upper_text : upper text = word.toList

/-- One common table expression: `WITH name AS (body)`. -/
structure Clause where
  opening : Spelling "WITH"
  /-- behind `WITH` -/
  gap₁ : Gap
  name : List Char
  isIdentifier_name : isIdentifier name = true
  /-- behind the name -/
  gap₂ : Gap
  link : Spelling "AS"
  /-- behind `AS` -/
  gap₃ : Gap
  body : List Char
  isBalanced_body : isBalanced body = true
  unquoted_body : body.all (fun c => c != '\'' && c != '"') = true
  commentFree_body : CommentFree body
  /-- behind the closing parenthesis -/
  gap₄ : Gap

/-- The clause as it is written. -/
def Clause.text (c : Clause) : List Char :=
  c.opening.text ++ c.gap₁.text ++ c.name ++ c.gap₂.text ++ c.link.text ++ c.gap₃.text ++
    '(' :: c.body ++ ')' :: c.gap₄.text

/-- What a statement does to the rows of a table. -/
inductive Verb where
  | insert
  | update
  | delete

/-- The word for it. -/
def Verb.word : Verb → String
  | insert => "INSERT"
  | update => "UPDATE"
  | delete => "DELETE"

/-- The kind of the statements with this verb. -/
def Verb.kind : Verb → Kind
  | insert => .insert
  | update => .update
  | delete => .delete

/-- A statement that changes rows, with a common table expression in front or without. -/
structure RowChange where
  /-- what stands in front -/
  clause : Option Clause
  verb : Verb
  /-- the verb as it is written -/
  written : Spelling verb.word
  /-- behind the verb -/
  gap : Gap
  /-- what else there is -/
  rest : List Char

namespace RowChange

/-- The statement without what stands in front. -/
def bare (m : RowChange) : List Char := m.written.text ++ m.gap.text ++ m.rest

/-- The statement. -/
def text (m : RowChange) : List Char :=
  match m.clause with
  | none => m.bare
  | some clause => clause.text ++ m.bare

end RowChange

/-! ## §2. Opening words -/

/-- A statement opens with the word in front of its first gap. -/
theorem keywordOf_spelling {word : String} (spelling : Spelling word)
    (hword : ∀ c ∈ word.toList, endsKeyword c = false) (hcapitals : upper word.toList = word.toList)
    (hne : word.toList ≠ []) (gap : Gap) (rest : List Char) :
    keywordOf (String.ofList (upper (spelling.text ++ gap.text ++ rest))) = word := by
  have hfirst := gap.isBlank_first
  have hupper : upper (spelling.text ++ gap.text ++ rest)
      = word.toList ++ gap.first :: (upper gap.more ++ upper rest) := by
    rw [upper_append, upper_append, spelling.upper_text, Gap.text, upper_cons,
      upperOf_of_isBlank hfirst, List.append_assoc]
    rfl
  have hends : endsKeyword gap.first = true := by
    unfold endsKeyword
    rw [hfirst, Bool.true_or]
  unfold keywordOf leadingKeyword
  rw [String.toList_ofList, hupper, leadingWord_upto hne hword hends, hcapitals,
    String.ofList_toList]

theorem ofText_with {capitals : List Char} (h : keywordOf (String.ofList capitals) = "WITH") :
    Kind.ofText capitals = .select := by
  unfold Kind.ofText
  rw [h]
  rfl

theorem ofText_verb {capitals : List Char} {verb : Verb}
    (h : keywordOf (String.ofList capitals) = verb.word) : Kind.ofText capitals = verb.kind := by
  unfold Kind.ofText
  rw [h]
  cases verb <;> rfl

/-- **A common table expression in front makes a statement a query.** -/
theorem kindOf_text (m : RowChange) :
    kindOf m.text = if m.clause.isSome then .select else m.verb.kind := by
  unfold RowChange.text
  cases m.clause with
  | some clause =>
    -- all behind the first gap is of no account
    have hopening : clause.text ++ m.bare = clause.opening.text ++ clause.gap₁.text ++
        (clause.name ++ clause.gap₂.text ++ clause.link.text ++ clause.gap₃.text ++
          '(' :: clause.body ++ ')' :: clause.gap₄.text ++ m.bare) := by
      unfold Clause.text
      simp only [List.append_assoc, List.cons_append]
    have hkeyword : keywordOf (String.ofList (upper (clause.text ++ m.bare))) = "WITH" := by
      rw [hopening]
      exact keywordOf_spelling clause.opening (forall_of_all (by decide)) (by decide) (by decide)
        _ _
    exact ofText_with hkeyword
  | none =>
    have hkeyword : keywordOf (String.ofList (upper m.bare)) = m.verb.word :=
      keywordOf_spelling m.written (forall_of_all (by cases m.verb <;> decide))
        (by cases m.verb <;> decide) (by cases m.verb <;> decide) m.gap m.rest
    exact ofText_verb hkeyword

/-! ## §3. Runs and previews -/

/-- **A run at one of its statements**, behind those in front of it. -/
theorem run_at {db : Database σ} {script f : List Char} {before behind : List (List Char)}
    (hscript : fragments script = before ++ f :: behind) {s s₁ : σ} {done : Impact}
    (hbefore : runAll db .none before s = (.ok done, s₁)) :
    run db script s = runAll db done (f :: behind) s₁ := by
  rw [run_eq]
  rw [hscript, runAll_append, hbefore]

section

variable (m : RowChange) (db : Database σ)

/-- Only without a common table expression in front it is known that rows change. -/
theorem isDml_text : (kindOf m.text).isDml = m.clause.isNone := by
  rw [kindOf_text]
  cases m.clause with
  | none => cases m.verb <;> rfl
  | some _ => rfl

theorem callOf_text : callOf m.text = .counted m.text ↔ m.clause = none := by
  unfold callOf
  rw [isDml_text]
  cases m.clause with
  | none => exact iff_of_true rfl rfl
  | some clause => exact iff_of_false nofun (Option.some_ne_none clause)

/-- A run at a statement that changes rows. -/
theorem run_text {script : List Char} {before behind : List (List Char)}
    (hscript : fragments script = before ++ m.text :: behind) {s s₁ : σ} {done : Impact}
    (hbefore : runAll db .none before s = (.ok done, s₁)) :
    run db script s =
      match m.clause with
      | none =>
        match db.counted m.text s₁ with
        | (.ok rows, s₂) => runAll db (done.record m.verb.kind rows m.text) behind s₂
        | (.error fault, s₂) => (.error ⟨done, m.text, fault.detail⟩, s₂)
      | some _ =>
        match db.execute m.text s₁ with
        | (.ok (), s₂) => runAll db { done with executed := done.executed ++ [m.text] } behind s₂
        | (.error fault, s₂) => (.error ⟨done, m.text, fault.detail⟩, s₂) := by
  have hran := run_at hscript hbefore
  rw [runAll_cons, runStatement, isDml_text, kindOf_text] at hran
  rw [hran]
  cases m.clause with
  | none => rfl
  | some _ =>
    -- no rows are told, and none are recorded
    show (match ((db.execute m.text s₁).1.map fun () => (0 : UInt64),
        (db.execute m.text s₁).2) with
      | (.ok rows, s) => runAll db (done.record .select rows m.text) behind s
      | (.error fault, s) => (.error ⟨done, m.text, fault.detail⟩, s)) = _
    rcases db.execute m.text s₁ with ⟨fault | _, s₂⟩ <;> rfl

/-- A preview of a statement that changes rows. -/
theorem preview_text {script : List Char} (hscript : fragments script = [m.text]) (limit : Nat)
    (s : σ) : preview db limit script s =
      match m.clause with
      | none => (.error (notQuery m.verb.kind), s)
      | some _ => ((db.query m.text (askedFor limit) s).1.map (.of limit),
          (db.query m.text (askedFor limit) s).2) := by
  have hkind : Kind.ofStatement (String.ofList m.text) = kindOf m.text := by
    unfold Kind.ofStatement kindOf
    rw [String.toList_ofList]
  unfold preview soleQuery?
  rw [hscript]
  dsimp only
  rw [hkind, kindOf_text]
  cases m.clause with
  | none => cases m.verb <;> rfl
  | some _ => rfl

end

/-- **What runs and previews do with a statement that changes rows.**  Exactly if no common table
    expression stands in front, it is counted; then its rows come to the counter of its verb, and no
    preview runs it.  Otherwise it is run for its effect only and adds to no counter, and a preview
    runs it as a query. -/
theorem clause_hides_verb (m : RowChange) (db : Database σ) (script : List Char) (s : σ) :
    (callOf m.text = .counted m.text ↔ m.clause = none) ∧
    (∀ before behind done s₁, fragments script = before ++ m.text :: behind →
      runAll db .none before s = (.ok done, s₁) →
      run db script s =
        match m.clause with
        | none =>
          match db.counted m.text s₁ with
          | (.ok rows, s₂) => runAll db (done.record m.verb.kind rows m.text) behind s₂
          | (.error fault, s₂) => (.error ⟨done, m.text, fault.detail⟩, s₂)
        | some _ =>
          match db.execute m.text s₁ with
          | (.ok (), s₂) => runAll db { done with executed := done.executed ++ [m.text] } behind s₂
          | (.error fault, s₂) => (.error ⟨done, m.text, fault.detail⟩, s₂)) ∧
    (fragments script = [m.text] → ∀ limit, preview db limit script s =
      match m.clause with
      | none => (.error (notQuery m.verb.kind), s)
      | some _ => ((db.query m.text (askedFor limit) s).1.map (.of limit),
          (db.query m.text (askedFor limit) s).2)) :=
  ⟨callOf_text m, fun _ _ _ _ hscript hbefore => run_text m db hscript hbefore,
    fun hscript limit => preview_text m db hscript limit s⟩

/-- A deletion behind a common table expression with parentheses in parentheses. -/
def hiddenDeletion : RowChange where
  clause := some {
    opening := ⟨"with".toList, by decide⟩
    gap₁ := ⟨' ', [], by decide, by decide⟩
    name := "old".toList
    isIdentifier_name := by decide
    gap₂ := ⟨'\n', [' '], by decide, by decide⟩
    link := ⟨"As".toList, by decide⟩
    gap₃ := ⟨' ', [], by decide, by decide⟩
    body := "SELECT id FROM t WHERE (x > (1))".toList
    isBalanced_body := by decide +kernel
    unquoted_body := by decide +kernel
    commentFree_body := ⟨by decide +kernel, by decide +kernel⟩
    gap₄ := ⟨' ', [], by decide, by decide⟩ }
  verb := .delete
  written := ⟨"Delete".toList, by decide⟩
  gap := ⟨' ', [], by decide, by decide⟩
  rest := "FROM u".toList

/-- A database that runs all that it is asked to; every statement touches three rows. -/
def tallying : Database Unit where
  ask
    | .columns _ => return .ok []
    | .execute _ => return .ok ()
    | .counted _ => return .ok (3 : UInt64)
    | .query .. => return .ok []

/-- The rows of the deletion in front are told, and not those of the deletion behind a common table
    expression.  A preview lets the database run that one. -/
theorem deletion_hidden :
    let script := "DELETE FROM t;with old\n As (SELECT id FROM t WHERE (x > (1))) Delete FROM u".toList
    fragments script = ["DELETE FROM t".toList] ++ hiddenDeletion.text :: [] ∧
    (run tallying script ()).1
      = .ok ⟨0, 0, 3, ["DELETE FROM t".toList, hiddenDeletion.text]⟩ ∧
    fragments hiddenDeletion.text = [hiddenDeletion.text] ∧
    preview tallying 10 hiddenDeletion.text () = (.ok ⟨[], 10, false⟩, ()) := by
  -- over variables, so that no run is carried out to compare two of them
  have hruns : ∀ {script : List Char} {front : List (List Char)} {done : Impact},
      fragments script = front ++ hiddenDeletion.text :: [] →
      (runAll tallying .none front ()).1 = .ok done →
      (run tallying script ()).1
        = .ok { done with executed := done.executed ++ [hiddenDeletion.text] } := by
    intro script front done hscript hfront
    obtain ⟨-, hruns, -⟩ := clause_hides_verb hiddenDeletion tallying script ()
    have hbefore : runAll tallying .none front () = (.ok done, ()) := Prod.ext hfront rfl
    rw [hruns front [] done () hscript hbefore]
    rfl
  have hpreviews : fragments hiddenDeletion.text = [hiddenDeletion.text] →
      preview tallying 10 hiddenDeletion.text () = (.ok ⟨[], 10, false⟩, ()) := by
    obtain ⟨-, -, hpreviews⟩ := clause_hides_verb hiddenDeletion tallying hiddenDeletion.text ()
    intro hsole
    exact hpreviews hsole 10
  have hscript : fragments
      "DELETE FROM t;with old\n As (SELECT id FROM t WHERE (x > (1))) Delete FROM u".toList
        = ["DELETE FROM t".toList] ++ hiddenDeletion.text :: [] := by
    decide +kernel
  have hfront : (runAll tallying .none ["DELETE FROM t".toList] ()).1
      = .ok ⟨0, 0, 3, ["DELETE FROM t".toList]⟩ := by
    decide +kernel
  have hsole : fragments hiddenDeletion.text = [hiddenDeletion.text] := by decide +kernel
  exact ⟨hscript, hruns hscript hfront, hsole, hpreviews hsole⟩

end ScriptGate.Statement
