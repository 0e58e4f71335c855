/-
  ScriptGate.Proofs.Sql.CappedQuery — the cap on the rows of a query stays where it is.

  A query is previewed inside of another one that asks for its first rows.  What is written in
  front of it and behind it has no mark, and the query itself is a statement of a script, so the
  scanner keeps all of it: there is no comment in it that could go on over the cap, and no
  semicolon outside of quotes.  A literal that the query leaves open goes on to the end of the
  text, and the semicolons that are cut off at the end of the query do not change that.  So the cap
  is read from outside of comments, and from top level if the query leaves nothing open.
  Main statements:
    - `exists_withoutTerminator`  — what is cut off at the end of a query;
    - `keeps_withoutTerminator`   — what is left is kept, and leaves open what the query does;
    - `cap_kept`                  — a query with its cap is one statement, all of it, and where the
                                    scan stands at the cap.
-/
import ScriptGate.Proofs.Script.Canonical
import ScriptGate.Proofs.Text.Spelling
import ScriptGate.Service.Preview
import ScriptGate.Sql.Written

namespace ScriptGate.Sql.Written

open ScriptGate.Script ScriptGate.Service ScriptGate.Text

/-! ## §1. The query -/

/-- What is cut off at the end of a query are semicolons, with blanks in front of them. -/
theorem exists_withoutTerminator (query : List Char) :
    ∃ blanks semicolons, trim query = withoutTerminator query ++ (blanks ++ semicolons) ∧
      blanks.all isBlank = true ∧ semicolons.all (· == ';') = true := by
  obtain ⟨semicolons, hquery, hsemicolons⟩ := dropEndWhile_append (· == ';') (trim query)
  obtain ⟨blanks, hrest, hblanks⟩ :=
    dropEndWhile_append isBlank (dropEndWhile (· == ';') (trim query))
  refine ⟨blanks, semicolons, ?_, hblanks, hsemicolons⟩
  rw [← List.append_assoc]
  show trim query = trimEnd (dropEndWhile (· == ';') (trim query)) ++ blanks ++ semicolons
  rw [trimEnd, ← hrest]
  exact hquery

/-- Neither a blank nor a semicolon goes on with what stands in front of it. -/
theorem startsApart_terminator {blanks semicolons : List Char} (hblanks : blanks.all isBlank = true)
    (hsemicolons : semicolons.all (· == ';') = true) :
    startsApart (blanks ++ semicolons) = true := by
  cases blanks with
  | cons c rest =>
    rw [List.all_cons, Bool.and_eq_true] at hblanks
    exact isBoundary_of_isBlank hblanks.1
  | nil =>
    cases semicolons with
    | nil => rfl
    | cons c rest =>
      rw [List.all_cons, Bool.and_eq_true, beq_iff_eq] at hsemicolons
      rw [List.nil_append, hsemicolons.1]
      exact startsApart_semicolon rest

/-- Neither of them closes anything. -/
theorem closesNothing_terminator {blanks semicolons : List Char}
    (hblanks : blanks.all isBlank = true) (hsemicolons : semicolons.all (· == ';') = true) :
    ∀ c ∈ blanks ++ semicolons, ClosesNothing c := by
  intro c hc
  rcases List.mem_append.1 hc with hblank | hsemicolon
  · exact closesNothing_of_isBlank (List.all_eq_true.1 hblanks c hblank)
  · obtain rfl := beq_iff_eq.1 (List.all_eq_true.1 hsemicolons c hsemicolon)
    exact ⟨by decide, by decide, by decide⟩

/-- **A kept query is kept without the semicolons at its end**, and if the scan of the query ends at
    top level, so does that of what is left. -/
theorem keeps_withoutTerminator {query : List Char} (h : Keeps .start query) :
    Keeps .start (withoutTerminator query) ∧
      ((Scanner.start.run query).mode.isTop = true →
        (Scanner.start.run (withoutTerminator query)).mode.isTop = true) := by
  obtain ⟨blanks, semicolons, hquery, hblanks, hsemicolons⟩ := exists_withoutTerminator query
  obtain ⟨htrim, htrimmed⟩ := keeps_trim h
  rw [hquery] at htrim htrimmed
  have hapart := startsApart_terminator hblanks hsemicolons
  obtain ⟨hkept, hrest⟩ := (keeps_append hapart).1 htrim
  refine ⟨hkept, fun htop => ?_⟩
  have hbehind := htrimmed htop
  rw [run_append _ hapart] at hbehind
  exact isTop_of_run (closesNothing_terminator hblanks hsemicolons) (isPlain_run rfl hkept) hrest
    hbehind

/-! ## §2. The cap -/

/-- What stands in front of a capped query. -/
def capOpening : List Char := "SELECT row_to_json(preview_q)::text FROM (".toList

/-- What stands between it and the limit. -/
def capMiddle : List Char := ") AS preview_q LIMIT ".toList

/-- What stands behind it. -/
def capClosing (limit : Nat) : List Char := capMiddle ++ (toString limit).toList

theorem rowsAsJson_eq (query : List Char) (limit : Nat) :
    rowsAsJson query limit = capOpening ++ withoutTerminator query ++ capClosing limit := by
  unfold rowsAsJson capOpening capClosing capMiddle
  rw [List.append_assoc]

/-- A digit is a character of a name, so it is neither a mark nor a blank. -/
theorem isNameChar_of_isDigit {c : Char} (h : c.isDigit = true) : isNameChar c = true := by
  have hascii : isAscii c = true := by
    obtain ⟨_, hhigh⟩ := Char.isDigit_iff_toNat.1 h
    have hnine : '9'.toNat = 57 := rfl
    rw [isAscii, decide_eq_true_eq]
    omega
  rw [isNameChar, isAlphanumeric, isNumeric, if_pos hascii, h, Bool.or_true, Bool.true_or]

/-- A capped query begins with a letter. -/
theorem head?_rowsAsJson (query : List Char) (limit : Nat) :
    (rowsAsJson query limit).head? = some 'S' := by
  have hopening : capOpening.head? = some 'S' := by decide +kernel
  rw [rowsAsJson_eq, List.append_assoc, List.head?_append, hopening, Option.some_or]

/-- A parenthesis closes the query in it, so the look-ahead ends where the cap begins. -/
theorem startsApart_capClosing (limit : Nat) : startsApart (capClosing limit) = true := by
  have hmiddle : capMiddle.head? = some ')' := by decide +kernel
  rw [startsApart, capClosing, List.head?_append, hmiddle, Option.some_or]
  decide

/-- The limit is spelled without a mark. -/
theorem isMark_capClosing (limit : Nat) : ∀ c ∈ capClosing limit, isMark c = false := by
  intro c hc
  rcases List.mem_append.1 hc with htext | hdigits
  · exact forall_of_all (P := fun c => isMark c = false) (by decide +kernel) c htext
  · exact isMark_of_isNameChar (isNameChar_of_isDigit (isDigit_toString c hdigits))

/-- It is the last thing of a capped query. -/
theorem getLast?_rowsAsJson (query : List Char) (limit : Nat) :
    (rowsAsJson query limit).getLast?.any isBlank = false := by
  unfold rowsAsJson
  rw [List.getLast?_append]
  cases hlast : (toString limit).toList.getLast? with
  | none => exact absurd (List.getLast?_eq_none_iff.1 hlast) (toString_ne_nil limit)
  | some c =>
    have hc := isNameChar_of_isDigit (isDigit_toString c (List.mem_of_getLast? hlast))
    show isBlank c = false
    rw [Bool.eq_false_iff]
    intro hblank
    rw [isNameChar_of_isBlank hblank] at hc
    exact Bool.noConfusion hc

/-- What stands in front of a capped query has no marks and does not end in a name. -/
theorem unmarked_capOpening :
    (∀ c ∈ capOpening, isMark c = false) ∧ capOpening.getLast?.any isNameChar = false :=
  ⟨forall_of_all (P := fun c => isMark c = false) (by decide +kernel), by decide +kernel⟩

/-- A kept query is kept with its cap around it. -/
theorem keeps_rowsAsJson {query : List Char} (h : Keeps .start query) (limit : Nat) :
    Keeps .start (rowsAsJson query limit) := by
  rw [rowsAsJson_eq]
  exact keeps_around unmarked_capOpening.1 unmarked_capOpening.2 (isMark_capClosing limit)
    (startsApart_capClosing limit) (keeps_withoutTerminator h).1

theorem not_inComment_of_isPlain {mode : Mode} (h : mode.isPlain = true) :
    mode.inComment = false := by
  cases mode with
  | lineComment | commentBracket | comment => exact Bool.noConfusion h
  | _ => rfl

/-- Text without marks that is read at top level leaves the scan there. -/
theorem isTop_run_unmarked {text : List Char} :
    ∀ {s : Scanner}, (∀ c ∈ text, isMark c = false) → s.mode.isTop = true →
      (s.run text).mode.isTop = true := by
  induction text with
  | nil => exact fun _ hs => hs
  | cons c rest ih =>
    intro s htext hs
    obtain ⟨hc, hrest⟩ := List.forall_mem_cons.1 htext
    rw [run_cons]
    refine ih hrest ?_
    rw [(read_plain hs hc rest).2.2]
    rfl

/-- **The cap on the rows of a query stays where it is.**  Whatever text is taken for a query, and
    whatever the limit: the query is written between an opening and the cap, less the semicolons at
    its end.  The scanner keeps every character of that, from the first to the last digit of the
    limit, so it is one statement.  At the cap the scan stands outside of comments, with all that is
    in front of it in the open fragment, and it keeps the cap; and if the query leaves nothing open,
    the cap is read at top level. -/
theorem cap_kept {text query : List Char} (h : soleQuery? text = .ok query) (limit : Nat) :
    let capped := rowsAsJson query limit
    let front := capOpening ++ withoutTerminator query
    let s := Scanner.start.run front
    (∃ blanks semicolons, query = withoutTerminator query ++ (blanks ++ semicolons) ∧
      blanks.all isBlank = true ∧ semicolons.all (· == ';') = true) ∧
    capped = front ++ capClosing limit ∧
    Keeps .start capped ∧ fragments capped = [capped] ∧
    Scanner.start.run capped = s.run (capClosing limit) ∧
    s.current.reverse = front ∧ s.mode.inComment = false ∧ Keeps s (capClosing limit) ∧
    ((Scanner.start.run query).mode.isTop = true →
      s.mode.isTop = true ∧ (s.run (capClosing limit)).mode.isTop = true) := by
  intro capped front s
  obtain ⟨hquery, _⟩ := (soleQuery?_eq_ok_iff text query).1 h
  have hmem : query ∈ fragments text := hquery ▸ List.mem_singleton_self query
  have hkept := keeps_of_mem hmem
  obtain ⟨hinner, hleaves⟩ := keeps_withoutTerminator hkept
  have hkeeps : Keeps .start capped := keeps_rowsAsJson hkept limit
  have hhead : capped.head? = some 'S' := head?_rowsAsJson query limit
  -- the text begins with a letter and ends in a digit
  have htrim : trim capped = capped := by
    refine trim_eq_self ?_ (getLast?_rowsAsJson query limit)
    rw [hhead]
    decide
  have hne : ¬ capped.isEmpty = true := by
    intro hempty
    rw [List.isEmpty_iff.1 hempty] at hhead
    exact absurd hhead.symm (Option.some_ne_none 'S')
  have hcapped : capped = front ++ capClosing limit := rowsAsJson_eq query limit
  have hapart := startsApart_capClosing limit
  have hparts : Keeps .start front ∧ Keeps s (capClosing limit) :=
    (keeps_append hapart).1 (hcapped ▸ hkeeps)
  refine ⟨?_, hcapped, hkeeps, ?_, ?_, ?_, ?_, hparts.2, ?_⟩
  · -- a statement has no blanks at its ends
    obtain ⟨part, hpart, _⟩ := exists_of_mem hmem
    have hself : trim query = query := by rw [hpart, trim_trim]
    have hterminator := exists_withoutTerminator query
    rwa [hself] at hterminator
  · rw [fragments_of_keeps hkeeps, whole, htrim, if_neg hne]
  · rw [hcapped, run_append _ hapart]
  · rw [current_of_keeps hparts.1, List.reverse_append, List.reverse_reverse]
    rfl
  · exact not_inComment_of_isPlain (isPlain_run rfl hparts.1)
  · intro htop
    have hs : s.mode.isTop = true := by
      show (Scanner.start.run (capOpening ++ withoutTerminator query)).mode.isTop = true
      rw [run_behind unmarked_capOpening.1 unmarked_capOpening.2 hinner]
      exact hleaves htop
    exact ⟨hs, isTop_run_unmarked (isMark_capClosing limit) hs⟩

/-- A text with comments and with a literal that nothing closes. -/
def openEnded : List Char := "/*;*/SELECT E'--\\';;".toList

/-- What is open at the end of a query is open at the cap too, and not a character of the cap is
    lost; the cap of a query that leaves nothing open is read at top level. -/
theorem cap_kept_open :
    let query := "SELECT E'--\\';;".toList
    let capped :=
      "SELECT row_to_json(preview_q)::text FROM (SELECT E'--\\') AS preview_q LIMIT 5".toList
    let settled := "SELECT 'a;b'".toList
    (soleQuery? openEnded = .ok query ∧ rowsAsJson query 5 = capped ∧ Keeps .start capped ∧
      fragments capped = [capped]) ∧
    soleQuery? "SELECT 'a;b'--;".toList = .ok settled ∧
      (Scanner.start.run settled).mode.isTop = true ∧
      (Scanner.start.run (capOpening ++ withoutTerminator settled)).mode.isTop = true := by
  intro query capped settled
  have hopen : soleQuery? openEnded = .ok query := (soleQuery?_eq_ok_iff _ _).2 (by decide +kernel)
  have hcapped : rowsAsJson query 5 = capped := by decide +kernel
  obtain ⟨-, -, hkeeps, hfragments, -⟩ := cap_kept hopen 5
  rw [hcapped] at hkeeps hfragments
  have hsettled : soleQuery? "SELECT 'a;b'--;".toList = .ok settled :=
    (soleQuery?_eq_ok_iff _ _).2 (by decide +kernel)
  have htop : (Scanner.start.run settled).mode.isTop = true := by decide +kernel
  obtain ⟨-, -, -, -, -, -, -, -, hcap⟩ := cap_kept hsettled 5
  exact ⟨⟨hopen, hcapped, hkeeps, hfragments⟩, hsettled, htop, (hcap htop).1⟩

end ScriptGate.Sql.Written
