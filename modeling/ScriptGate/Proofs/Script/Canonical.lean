/-
  ScriptGate.Proofs.Script.Canonical — scripts that read as what comes out of them.

  What the scanner writes it would read again character by character: comments leave blanks
  behind, and a blank ends every look-ahead that the comment ended.  So each statement of a script
  is a script of one statement, itself, and the statements with semicolons between them make a
  script without comments and empty statements that does the same as the first.
  Main statements:
    - `keeps_written`        — the scanner keeps every character of what it has written;
    - `keeps_of_mem`         — and so every character of a statement of a script;
    - `fragments_canonical`  — the canonical form of a script has the statements of the script,
                               and is validated, run, reviewed and predicted as the script is.
-/
import ScriptGate.Deployment.Impact
import ScriptGate.Proofs.Script.Delimiter
import ScriptGate.Proofs.Script.Kept
import ScriptGate.Review.Analysis
import ScriptGate.Review.Validation
import ScriptGate.Schema.Prediction

namespace ScriptGate.Script

open ScriptGate.Text

/-! ## §1. What is written -/

/-- Does the scan stand in a comment? -/
def Mode.inComment : Mode → Bool
  | .lineComment | .commentBracket | .comment _ => true
  | _ => false

theorem isTop_eq_false_of_inComment {mode : Mode} (h : mode.inComment = true) :
    mode.isTop = false := by
  cases mode with
  | top => exact Bool.noConfusion h
  | closed escapes => exact Bool.noConfusion h
  | _ => rfl

theorem written_cons {s : Scanner} {c : Char} (h : s.cutsAt c = false) (ahead : List Char) :
    written s (c :: ahead) = (s.takes c ahead).toList ++ written (s.read c ahead) ahead := by
  rw [written, h, if_neg Bool.false_ne_true]

theorem beyond_cons {s : Scanner} {c : Char} (h : s.cutsAt c = false) (ahead : List Char) :
    beyond s (c :: ahead) = beyond (s.read c ahead) ahead := by
  rw [beyond, h, if_neg Bool.false_ne_true]

/-- A comment goes on without a trace, or it ends and leaves a blank. -/
theorem read_inComment {s : Scanner} (h : s.mode.inComment = true) (c : Char)
    (ahead : List Char) :
    (s.takes c ahead = none ∧ (s.read c ahead).mode.inComment = true) ∨
      ∃ b, isBlank b = true ∧ s.takes c ahead = some b ∧ s.read c ahead = s.push b .top := by
  have htop := isTop_eq_false_of_inComment h
  rw [read_inside htop, Scanner.takes, if_neg (by rw [htop]; exact Bool.false_ne_true)]
  unfold Mode.inside Mode.gives
  cases hm : s.mode with
  | lineComment =>
    dsimp only
    by_cases hc : c = '\n'
    · rw [hc]
      exact .inr ⟨'\n', by decide, rfl, rfl⟩
    · rw [beq_eq_false_iff_ne.2 hc]
      exact .inl ⟨rfl, rfl⟩
  | commentBracket => exact .inl ⟨rfl, rfl⟩
  | comment star =>
    dsimp only
    by_cases hends : (star && c == '/') = true
    · rw [if_pos hends, if_pos hends]
      exact .inr ⟨' ', by decide, rfl, rfl⟩
    · rw [if_neg hends, if_neg hends]
      exact .inl ⟨rfl, rfl⟩
  | _ => rw [hm] at h; exact Bool.noConfusion h

/-- Where a comment opens at top level, the scan is in it from there on. -/
theorem inComment_of_opensComment {s : Scanner} (hs : s.mode.isTop = true) {c : Char}
    {ahead : List Char} (h : opensComment c ahead = true) :
    (s.read c ahead).mode.inComment = true := by
  rw [read_top hs, readTop_opens h]
  show (if c == '-' then Mode.lineComment else Mode.commentBracket).inComment = true
  split <;> rfl

/-- The first thing that is written out of a comment is a blank. -/
theorem head_written_inComment {input : List Char} :
    ∀ {s : Scanner}, s.mode.inComment = true → (written s input).head?.all isBlank = true := by
  induction input with
  | nil => exact fun _ => rfl
  | cons c ahead ih =>
    intro s hs
    rw [written_cons (not_cutsAt (isTop_eq_false_of_inComment hs) c)]
    rcases read_inComment hs c ahead with ⟨htakes, hgoes⟩ | ⟨b, hb, htakes, _⟩
    · rw [htakes]
      exact ih hgoes
    · rw [htakes]
      exact hb

/-- The first thing that is written at top level is the next character, or a blank, or nothing. -/
theorem head_written {s : Scanner} (hs : s.mode.isTop = true) (input : List Char) :
    (written s input).head? = input.head? ∨ (written s input).head?.all isBlank = true := by
  cases input with
  | nil => exact .inl rfl
  | cons c ahead =>
    cases hc : s.cutsAt c with
    | true =>
      rw [written, hc]
      exact .inr rfl
    | false =>
      rw [written_cons hc, takes_top hs]
      cases hopens : opensComment c ahead with
      | true => exact .inr (head_written_inComment (inComment_of_opensComment hs hopens))
      | false => exact .inl rfl

/-! ## §2. Looking ahead in what is written -/

/-- No comment opens in what is written where none opens in what is read. -/
theorem opensComment_written {s : Scanner} {c : Char} {ahead : List Char}
    (hs : c = '-' ∨ c = '/' → s.mode.isTop = true) (h : opensComment c ahead = false) :
    opensComment c (written s ahead) = false := by
  have hhead : ∀ d, isBlank d = false → s.mode.isTop = true →
      (ahead.head? == some d) = false → ((written s ahead).head? == some d) = false := by
    intro d hd htop hahead
    rcases head_written htop ahead with hsame | hblank
    · rw [hsame]
      exact hahead
    · rw [beq_eq_false_iff_ne]
      intro hsome
      rw [hsome, Option.all_some, hd] at hblank
      exact Bool.noConfusion hblank
  unfold opensComment at h ⊢
  rw [Bool.or_eq_false_iff] at h ⊢
  refine ⟨?_, ?_⟩
  · by_cases hc : c = '-'
    · have hahead := h.1
      rw [hc] at hahead ⊢
      exact hhead '-' (by decide) (hs (.inl hc)) hahead
    · rw [beq_eq_false_iff_ne.2 hc, Bool.false_and]
  · by_cases hc : c = '/'
    · have hahead := h.2
      rw [hc] at hahead ⊢
      exact hhead '*' (by decide) (hs (.inr hc)) hahead
    · rw [beq_eq_false_iff_ne.2 hc, Bool.false_and]

/-- No tag comes into being by what is left out. -/
theorem dollarTag?_written {ahead : List Char} :
    ∀ {s : Scanner}, s.mode.isTop = true → dollarTag? ahead = none →
      dollarTag? (written s ahead) = none := by
  induction ahead with
  | nil => exact fun _ _ => rfl
  | cons c rest ih =>
    intro s hs h
    by_cases hc : isNameChar c = true
    · obtain ⟨hcuts, hopens, hread⟩ := read_plain hs (isMark_of_isNameChar hc) rest
      rw [dollarTag?_cons hc, Option.map_eq_none_iff] at h
      rw [written_cons hcuts, takes_top hs, hopens, hread]
      show dollarTag? (c :: written (s.push c .top) rest) = none
      rw [dollarTag?_cons hc, ih rfl h]
      rfl
    · have hdollar : c ≠ '$' := by
        intro he
        rw [he] at h
        exact Option.some_ne_none _ h
      refine dollarTag?_eq_none ?_
      -- the tag breaks off at `c` or at the blank that a comment leaves
      rcases head_written hs (c :: rest) with hsame | hblank
      · rw [hsame]
        simp [hc, hdollar]
      · cases hhead : (written s (c :: rest)).head? with
        | none => rfl
        | some b =>
          rw [hhead, Option.all_some] at hblank
          have hb : b ≠ '$' := ne_of_isBlank hblank (by decide)
          simp [isNameChar_of_isBlank hblank, hb]

/-- The opening delimiter of a dollar quote is written as it is. -/
theorem take_written_dollar {ahead : List Char} :
    ∀ {s : Scanner} {delimiter body : List Char} {n : Nat}, s.mode = .dollar delimiter n body →
      (written s ahead).take n = ahead.take n := by
  induction ahead with
  | nil => exact fun _ => rfl
  | cons c rest ih =>
    intro s delimiter body n hs
    -- inside of the opening delimiter nothing is dropped and nothing closes
    cases n with
    | zero => rfl
    | succ n =>
      have hcuts : s.cutsAt c = false := by
        rw [Scanner.cutsAt, hs]
        rfl
      have htakes : s.takes c rest = some c := by
        rw [Scanner.takes, hs]
        rfl
      have hread : s.read c rest = s.push c (.dollar delimiter n body) := by
        rw [Scanner.read, hs]
      rw [written_cons hcuts, htakes, hread]
      show (c :: written (s.push c (.dollar delimiter n body)) rest).take (n + 1) = _
      rw [List.take_succ_cons, List.take_succ_cons, ih rfl]

/-- A dollar sign opens in what is written what it opens in what is read. -/
theorem dollarMode_written {s : Scanner} {current ahead : List Char}
    (hs : s.mode = dollarMode current ahead) :
    dollarMode current (written s ahead) = dollarMode current ahead := by
  unfold dollarMode at hs ⊢
  by_cases hname : current.head?.any isNameChar = true
  · rw [if_pos hname, if_pos hname]
  · rw [if_neg hname] at hs
    rw [if_neg hname, if_neg hname]
    cases htag : dollarTag? ahead with
    | none =>
      rw [htag] at hs
      have htop : s.mode.isTop = true := by rw [hs]; rfl
      rw [dollarTag?_written htop htag]
    | some tag =>
      rw [htag] at hs
      obtain ⟨hall, rest, hahead⟩ := dollarTag?_eq_some htag
      -- the opening delimiter is part of what is written, so it shows the same tag
      have htake : (written s ahead).take (tag.length + 1) = tag ++ ['$'] := by
        have hopener : (written s ahead).take (openerLength tag) = ahead.take (openerLength tag) :=
          take_written_dollar hs
        have hle : tag.length + 1 ≤ openerLength tag := length_lt_openerLength tag
        rw [← Nat.min_eq_left hle, ← List.take_take, hopener, List.take_take, Nat.min_eq_left hle,
          hahead, List.take_length_add_append]
        rfl
      have hwritten : dollarTag? (written s ahead) = some tag := by
        rw [← List.take_append_drop (tag.length + 1) (written s ahead), htake, List.append_assoc]
        exact dollarTag?_tag hall _
      rw [hwritten]

/-! ## §3. Following the scan -/

/-- Where the scan of what is written stands while the first scan reads: at the same place, or in
    front of the blank that a comment will leave behind. -/
structure Scanner.Follows (t s : Scanner) : Prop where
  current : t.current = s.current
  plain : t.mode.isPlain = true
  mode : t.mode = s.mode ∨ s.mode.inComment = true ∧ t.mode.isTop = true

theorem follows_start : Scanner.start.Follows .start := ⟨rfl, rfl, .inl rfl⟩

/-- What is not written need not be followed. -/
theorem follows_skip {s t : Scanner} (h : t.Follows s) {c : Char} {ahead : List Char}
    (hcuts : s.cutsAt c = false) (htakes : s.takes c ahead = none) :
    t.Follows (s.read c ahead) := by
  obtain ⟨hcurrent, _⟩ := current_read hcuts ahead
  rw [htakes] at hcurrent
  refine ⟨h.current.trans hcurrent.symm, h.plain, .inr ?_⟩
  rcases h.mode with hmode | ⟨hcomment, htop⟩
  -- either a comment opens here, or one goes on
  · cases hs : s.mode.isTop with
    | true =>
      have hopens := (takes_top_eq_none hs).1 htakes
      exact ⟨inComment_of_opensComment hs hopens, hmode ▸ hs⟩
    | false =>
      have hplain : s.mode.isPlain = true := hmode ▸ h.plain
      rw [takes_inside hplain hs] at htakes
      exact absurd htakes (Option.some_ne_none c)
  · rcases read_inComment hcomment c ahead with ⟨_, hgoes⟩ | ⟨b, _, hsome, _⟩
    · exact ⟨hgoes, htop⟩
    · rw [htakes] at hsome
      exact absurd hsome.symm (Option.some_ne_none b)

/-- At top level a character is read in what is written as it was read first. -/
theorem read_written_top {s t : Scanner} (hcurrent : t.current = s.current)
    (hmode : t.mode = s.mode) (hs : s.mode.isTop = true) {c : Char} {ahead : List Char}
    (hcuts : s.cutsAt c = false) (hopens : opensComment c ahead = false) :
    let behind := written (s.read c ahead) ahead
    opensComment c behind = false ∧ (t.read c behind).mode = (s.read c ahead).mode := by
  intro behind
  have hread := read_kept hs hcuts hopens
  have hbehind : opensComment c behind = false := by
    refine opensComment_written ?_ hopens
    rw [hread]
    rintro (rfl | rfl) <;> rfl
  have ht : t.mode.isTop = true := hmode ▸ hs
  have hcuts' : t.cutsAt c = false := by
    rw [Scanner.cutsAt, hmode]
    exact hcuts
  refine ⟨hbehind, ?_⟩
  rw [read_kept ht hcuts' hbehind, hread]
  show t.modeBehind c behind = s.modeBehind c ahead
  have hquote : t.quoteKind = s.quoteKind := by
    unfold Scanner.quoteKind
    rw [hmode, hcurrent]
  have hdollar : c = '$' → dollarMode s.current behind = dollarMode s.current ahead := by
    rintro rfl
    refine dollarMode_written ?_
    rw [hread]
    rfl
  -- only a dollar sign looks further ahead than at the next character
  unfold Scanner.modeBehind
  rw [hquote, hcurrent]
  split
  case h_3 => exact hdollar rfl
  all_goals rfl

/-- What is written is kept and followed. -/
theorem follows_keep {s t : Scanner} (h : t.Follows s) {c d : Char} {ahead : List Char}
    (hcuts : s.cutsAt c = false) (htakes : s.takes c ahead = some d) :
    let behind := written (s.read c ahead) ahead
    t.cutsAt d = false ∧ t.takes d behind = some d ∧
      (t.read d behind).Follows (s.read c ahead) := by
  intro behind
  rcases h.mode with hmode | ⟨hcomment, htop⟩
  · have hcuts' : t.cutsAt c = false := by
      rw [Scanner.cutsAt, hmode]
      exact hcuts
    -- both scans stand at the same place, and both take on the character itself
    have hkeep : d = c ∧ t.takes c behind = some c ∧
        (t.read c behind).mode = (s.read c ahead).mode := by
      cases hs : s.mode.isTop with
      | true =>
        obtain ⟨hopens, rfl⟩ := (takes_top_eq_some hs).1 htakes
        obtain ⟨hbehind, hread⟩ := read_written_top h.current hmode hs hcuts hopens
        exact ⟨rfl, (takes_top_eq_some (hmode ▸ hs)).2 ⟨hbehind, rfl⟩, hread⟩
      | false =>
        have hplain : s.mode.isPlain = true := hmode ▸ h.plain
        rw [takes_inside hplain hs] at htakes
        refine ⟨(Option.some.inj htakes).symm, takes_inside h.plain (hmode ▸ hs) c behind, ?_⟩
        rw [read_inside hs, read_inside (hmode ▸ hs)]
        show t.mode.inside c = s.mode.inside c
        rw [hmode]
    obtain ⟨rfl, htakes', hmode'⟩ := hkeep
    refine ⟨hcuts', htakes', ?_, isPlain_read h.plain hcuts' htakes', .inl hmode'⟩
    rw [(current_read hcuts' behind).1, (current_read hcuts ahead).1, htakes, htakes', h.current]
  · rcases read_inComment hcomment c ahead with ⟨hnone, _⟩ | ⟨b, hb, hsome, hread⟩
    · rw [htakes] at hnone
      exact absurd hnone (Option.some_ne_none d)
    · -- the comment ends, and its blank is read at top level
      obtain rfl : d = b := Option.some.inj (htakes.symm.trans hsome)
      obtain ⟨hcuts', hopens, hread'⟩ := read_plain htop (isMark_of_isBlank hb) behind
      refine ⟨hcuts', (takes_top_eq_some htop).2 ⟨hopens, rfl⟩, ?_⟩
      rw [hread', hread]
      exact ⟨congrArg (d :: ·) h.current, rfl, .inl rfl⟩

/-- **The scanner keeps every character of what it has written**, and it comes to the end of a
    fragment at top level if the fragment was closed. -/
theorem keeps_written (input : List Char) :
    ∀ {s t : Scanner}, t.Follows s → Keeps t (written s input) ∧
      (beyond s input ≠ none → (t.run (written s input)).mode.isTop = true) := by
  induction input with
  | nil => exact fun _ => ⟨.nil, fun h => absurd rfl h⟩
  | cons c ahead ih =>
    intro s t h
    cases hcuts : s.cutsAt c with
    | true =>
      have hs : s.mode.isTop = true := by
        rw [Scanner.cutsAt, Bool.and_eq_true] at hcuts
        exact hcuts.1
      -- the semicolon is not written, and the second scan waits in front of it
      have ht : t.mode.isTop = true := by
        rcases h.mode with hmode | ⟨_, htop⟩
        · rw [hmode]
          exact hs
        · exact htop
      rw [written, hcuts, if_pos rfl]
      exact ⟨.nil, fun _ => ht⟩
    | false =>
      rw [written_cons hcuts, beyond_cons hcuts]
      cases htakes : s.takes c ahead with
      | none => exact ih (follows_skip h hcuts htakes)
      | some d =>
        obtain ⟨hcuts', htakes', hfollows⟩ := follows_keep h hcuts htakes
        obtain ⟨hkeeps, htop⟩ := ih hfollows
        exact ⟨.cons hcuts' htakes' hkeeps, htop⟩

/-! ## §4. The canonical form -/

/-- The canonical form of a script: its statements with semicolons between them. -/
def canonical (script : List Char) : List Char := List.intercalate [';'] (fragments script)

/-- Scripts, from the text behind their first semicolon. -/
theorem script_induction {P : List Char → Prop}
    (step : ∀ script, (∀ rest, beyond .start script = some rest → P rest) → P script)
    (script : List Char) : P script := by
  induction hlength : script.length using Nat.strongRecOn generalizing script with
  | ind n ih =>
    refine step script ?_
    intro rest hrest
    have hshorter : rest.length < n := hlength ▸ length_beyond hrest
    exact ih rest.length hshorter rest rfl

/-- A fragment that is written is a script of one statement, which leaves the scan at top level
    if a semicolon closed it. -/
theorem fragments_written (script : List Char) :
    fragments (trim (written .start script)) = whole (written .start script) ∧
      (beyond .start script ≠ none →
        (Scanner.start.run (trim (written .start script))).mode.isTop = true) := by
  obtain ⟨hkeeps, htop⟩ := keeps_written script follows_start
  obtain ⟨htrim, htrimTop⟩ := keeps_trim hkeeps
  refine ⟨?_, fun hclosed => htrimTop (htop hclosed)⟩
  rw [fragments_of_keeps htrim, whole, whole, trim_trim]

/-- A statement of a script is what was written of some part of it, trimmed. -/
theorem exists_of_mem {script f : List Char} (h : f ∈ fragments script) :
    ∃ part, f = trim (written .start part) ∧ f ≠ [] := by
  induction script using script_induction with
  | step script ih =>
    rw [fragments_first, List.mem_append] at h
    -- a statement is the first one, or one of the text behind it
    rcases h with hfirst | hrest
    · unfold whole at hfirst
      split at hfirst
      · exact absurd hfirst List.not_mem_nil
      · next hne =>
        have hf := List.mem_singleton.1 hfirst
        exact ⟨script, hf, fun hnil => hne (List.isEmpty_iff.2 (hf.symm.trans hnil))⟩
    · cases hbeyond : beyond .start script with
      | none =>
        rw [hbeyond] at hrest
        exact absurd hrest List.not_mem_nil
      | some rest =>
        rw [hbeyond] at hrest
        exact ih rest hbeyond hrest

/-- **The scanner keeps every character of a statement of a script.** -/
theorem keeps_of_mem {script f : List Char} (h : f ∈ fragments script) : Keeps .start f := by
  obtain ⟨part, rfl, _⟩ := exists_of_mem h
  exact (keeps_trim (keeps_written part follows_start).1).1

/-- A statement of a script is a script of one statement, itself. -/
theorem fragments_of_mem {script f : List Char} (h : f ∈ fragments script) :
    fragments f = [f] := by
  rw [fragments_of_keeps (keeps_of_mem h)]
  obtain ⟨part, rfl, hne⟩ := exists_of_mem h
  rw [whole, trim_trim, if_neg fun hempty => hne (List.isEmpty_iff.1 hempty)]

/-- The canonical form of a script has the statements of the script. -/
theorem fragments_of_canonical (script : List Char) :
    fragments (canonical script) = fragments script := by
  induction script using script_induction with
  | step script ih =>
    unfold canonical at ih ⊢
    obtain ⟨hone, htop⟩ := fragments_written script
    rw [fragments_first script]
    unfold whole at hone ⊢
    -- the last statement has no semicolon behind it, and the canonical form has none either
    cases hbeyond : beyond .start script with
    | none =>
      dsimp only
      rw [List.append_nil]
      split
      · decide +kernel
      · next hne =>
        rw [if_neg hne] at hone
        rw [List.intercalate_singleton]
        exact hone
    | some rest =>
      dsimp only
      split
      · exact ih rest hbeyond
      · next hne =>
        rw [if_neg hne] at hone
        rw [hbeyond] at htop
        rw [List.singleton_append]
        -- where nothing but blanks and comments follows, this statement is the last
        by_cases hrest : fragments rest = []
        · rw [hrest, List.intercalate_singleton]
          exact hone
        · rw [List.intercalate_cons_of_ne_nil hrest, List.append_assoc]
          show fragments (_ ++ ';' :: List.intercalate [';'] (fragments rest)) = _
          rw [fragments_semicolon (htop (Option.some_ne_none rest)), hone, ih rest hbeyond]
          rfl

/-- **The canonical form of a script stands for the script.**  Every statement is a script of its
    own, the statements with semicolons between them make a script of just these statements, and a
    script with statements is validated, run, reviewed and predicted as its canonical form is: the
    answer is the same, and so is what the database is asked. -/
theorem fragments_canonical (script : List Char) :
    (∀ f ∈ fragments script, fragments f = [f]) ∧
    fragments (canonical script) = fragments script ∧
    (fragments script ≠ [] →
      (∀ {σ : Type} (parser : Statement.Parser) (db : Database σ),
        Review.validate parser db (canonical script) = Review.validate parser db script) ∧
      (∀ {σ : Type} (db : Database σ),
        Deployment.run db (canonical script) = Deployment.run db script) ∧
      (∀ parser : Statement.Parser,
        Review.analyzeStatements parser (canonical script)
          = Review.analyzeStatements parser script) ∧
      ∀ snapshot : Schema.Snapshot,
        Schema.predict snapshot (canonical script) = Schema.predict snapshot script) := by
  have hsame := fragments_of_canonical script
  refine ⟨fun f hf => fragments_of_mem hf, hsame, ?_⟩
  intro hsome
  refine ⟨?_, ?_, ?_, ?_⟩
  · intro σ parser db
    unfold Review.validate
    rw [hsame]
  · intro σ db
    rw [Deployment.run_eq, Deployment.run_eq, hsame]
  · intro parser
    unfold Review.analyzeStatements
    rw [hsame]
    -- with no statement at all the review would be about the text itself
    cases hfragments : fragments script with
    | nil => exact absurd hfragments hsome
    | cons f rest => rfl
  · intro snapshot
    unfold Schema.predict
    rw [hsame]

/-- A script with a comment, an empty statement and a semicolon in a literal. -/
def untidy : List Char := "a;/*;*/;--\n';'".toList

/-- The canonical form of a script with comments is another text that does the same. -/
theorem untidy_canonical :
    canonical untidy = "a;';'".toList ∧ fragments (canonical untidy) = [['a'], ['\'', ';', '\'']] ∧
      fragments untidy ≠ [] ∧
      ∀ {σ : Type} (db : Database σ),
        Deployment.run db (canonical untidy) = Deployment.run db untidy := by
  have hsome : fragments untidy ≠ [] := by decide +kernel
  obtain ⟨_, hsame, hall⟩ := fragments_canonical untidy
  refine ⟨by decide +kernel, ?_, hsome, fun db => (hall hsome).2.1 db⟩
  rw [hsame]
  decide +kernel

end ScriptGate.Script
