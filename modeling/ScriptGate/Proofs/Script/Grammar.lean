/-
  ScriptGate.Proofs.Script.Grammar — scripts written token by token.

  A script is a row of words, literals, quoted identifiers, dollar quotes and comments with blanks
  between them, and of semicolons that separate its statements.  A literal may hold the openings of
  all the others, its own quote doubled, and in an escape string anything behind a backslash.
  Main statements:
    - `reads_item`         — the scanner reads an item as the grammar has it, and is at top level
                             behind it;
    - `fragments_grammar`  — the fragments of a script are the texts between its semicolons, a blank
                             or the end of the line for each comment.
-/
import Mathlib.Data.List.Chain
import ScriptGate.Proofs.Script.Delimiter
import ScriptGate.Proofs.Script.Output

namespace ScriptGate.Script

open ScriptGate.Text

/-! ## §1. Items -/

/-- A plain word: no blank, no quote, no dollar sign and no semicolon, and no comment opens in
    it. -/
structure IsWord (text : List Char) : Prop where
  nonempty : text ≠ []
  unblank : ∀ c ∈ text, isBlank c = false
  plain : ∀ c ∈ text, c ≠ '\'' ∧ c ≠ '"' ∧ c ≠ '$' ∧ c ≠ ';'
  line : ¬ ['-', '-'] <:+: text
  bracket : ¬ openingBracket <:+: text

/-- A text with a quote doubled. -/
def doubling (quote : Char) (body : List Char) : List Char :=
  body.flatMap fun c => if c = quote then [quote, quote] else [c]

/-- What the body of an escape string is made of. -/
inductive Piece where
  /-- a character that stands for itself -/
  | plain (c : Char) (h : c ≠ '\'' ∧ c ≠ '\\')
  /-- a quote, doubled -/
  | quote
  /-- any character behind a backslash -/
  | shielded (c : Char)

/-- A piece as it is written. -/
def Piece.text : Piece → List Char
  | plain c _ => [c]
  | quote => ['\'', '\'']
  | shielded c => ['\\', c]

/-- What a script is made of. -/
inductive Item where
  | word (text : List Char) (h : IsWord text)
  /-- a string with this body -/
  | literal (body : List Char)
  /-- an escape string; `capital` tells its letter -/
  | escapes (capital : Bool) (body : List Piece)
  /-- a quoted identifier -/
  | quoted (name : List Char)
  /-- a dollar quote, with a tag of ASCII characters or none -/
  | dollar (tag body : List Char) (htag : ∀ c ∈ tag, isAscii c = true ∧ isNameChar c = true)
      (h : EndsFirst (dollarDelimiter tag) body)
  /-- a comment up to the end of the line -/
  | lineComment (text : List Char) (h : '\n' ∉ text)
  /-- a bracketed comment in which no other opens -/
  | comment (text : List Char) (hflat : ¬ openingBracket <:+: text)
      (h : EndsFirst closingBracket text)
  /-- blanks -/
  | gap (blanks : List Char) (hne : blanks ≠ []) (h : ∀ c ∈ blanks, isBlank c = true)
  /-- the semicolon between two statements -/
  | separator

namespace Item

/-- An item as it is written. -/
def text : Item → List Char
  | word text _ => text
  | literal body => '\'' :: (doubling '\'' body ++ ['\''])
  | escapes capital body =>
    (if capital then 'E' else 'e') :: '\'' :: (body.flatMap Piece.text ++ ['\''])
  | quoted name => '"' :: (doubling '"' name ++ ['"'])
  | dollar tag body _ _ => dollarDelimiter tag ++ body ++ dollarDelimiter tag
  | lineComment text _ => '-' :: '-' :: (text ++ ['\n'])
  | comment text _ _ => openingBracket ++ text ++ closingBracket
  | gap blanks _ _ => blanks
  | separator => [';']

/-- What comes out of an item in the statement that it stands in. -/
def kept : Item → List Char
  | lineComment _ _ => ['\n']
  | comment _ _ _ => [' ']
  | item => item.text

/-- Does it separate two statements? -/
def isSeparator : Item → Bool
  | separator => true
  | _ => false

/-- May it stand next to any other item? -/
def isFree : Item → Bool
  | gap _ _ _ | separator => true
  | _ => false

/-- Two tokens stand apart: there are blanks between them or a semicolon. -/
def Apart (x y : Item) : Prop := x.isFree = true ∨ y.isFree = true

instance : DecidableRel Apart := fun x y =>
  inferInstanceAs (Decidable (x.isFree = true ∨ y.isFree = true))

end Item

/-- A script as it is written. -/
def scriptOf (items : List Item) : List Char := items.flatMap Item.text

/-- The statements of a script: what is kept of the items between two semicolons, trimmed, unless
    nothing is left. -/
def statementsOf (items : List Item) : List (List Char) :=
  (items.splitOnP Item.isSeparator).flatMap fun group => whole (group.flatMap Item.kept)

/-! ## §2. Words and blanks -/

/-- The scanner at top level reads `text` and is at top level again; `kept` is what the open
    fragment has taken on. -/
def Scanner.Reads (s : Scanner) (text kept : List Char) : Prop :=
  ∃ mode : Mode, mode.isTop = true ∧ s.run text = ⟨mode, kept.reverse ++ s.current, s.closed⟩

theorem reads_nil {s : Scanner} (hs : s.mode.isTop = true) : s.Reads [] [] := ⟨s.mode, hs, rfl⟩

theorem reads_cons {s : Scanner} {c : Char} {rest kept : List Char} {mode : Mode}
    (hread : s.read c rest = s.push c mode) (hrest : (s.push c mode).Reads rest kept) :
    s.Reads (c :: rest) (c :: kept) := by
  obtain ⟨last, htop, hrun⟩ := hrest
  refine ⟨last, htop, ?_⟩
  rw [run_cons, hread, hrun, List.reverse_cons, List.append_assoc]
  rfl

/-- A text that is read from the start is one fragment, what is kept of it. -/
theorem fragments_of_reads {text kept : List Char} (h : Scanner.start.Reads text kept) :
    fragments text = whole kept := by
  obtain ⟨mode, _, hrun⟩ := h
  show (Scanner.start.run text).cut.closed.reverse = _
  rw [hrun, closed_cut]
  show (whole (kept.reverse ++ []).reverse ++ []).reverse = _
  rw [List.append_nil, List.append_nil, List.reverse_reverse, reverse_whole]

theorem reads_word {text : List Char} (hplain : ∀ c ∈ text, c ≠ '\'' ∧ c ≠ '"' ∧ c ≠ '$' ∧ c ≠ ';')
    (hline : ¬ ['-', '-'] <:+: text) (hbracket : ¬ openingBracket <:+: text) :
    ∀ {s : Scanner}, s.mode.isTop = true → s.Reads text text := by
  induction text with
  | nil => exact fun hs => reads_nil hs
  | cons c rest ih =>
    intro s hs
    obtain ⟨⟨hquote, hdouble, hdollar, hsemicolon⟩, hrest⟩ := List.forall_mem_cons.1 hplain
    have hcuts : s.cutsAt c = false := by
      rw [Scanner.cutsAt, beq_eq_false_iff_ne.2 hsemicolon, Bool.and_false]
    -- a comment opens with two characters that no word holds side by side
    have hpair : ∀ d e, ¬ [d, e] <:+: c :: rest → (c == d && rest.head? == some e) = false := by
      intro d e hnone
      rw [Bool.eq_false_iff]
      intro hopens
      rw [Bool.and_eq_true, beq_iff_eq, beq_iff_eq] at hopens
      obtain ⟨rfl, hhead⟩ := hopens
      obtain ⟨tail, rfl⟩ := List.head?_eq_some_iff.1 hhead
      exact hnone ⟨[], tail, rfl⟩
    have hopens : opensComment c rest = false := by
      rw [opensComment, hpair '-' '-' hline, hpair '/' '*' hbracket]
      rfl
    have hbehind : s.modeBehind c rest = .top := by
      unfold Scanner.modeBehind
      split
      · exact absurd rfl hquote
      · exact absurd rfl hdouble
      · exact absurd rfl hdollar
      · rfl
    have hread := read_kept hs hcuts hopens
    rw [hbehind] at hread
    refine reads_cons hread (ih hrest ?_ ?_ rfl)
    · exact fun hin => hline (List.infix_cons hin)
    · exact fun hin => hbracket (List.infix_cons hin)

/-- Blanks are read one by one, whatever comes behind them. -/
theorem run_blanks {blanks : List Char} (h : ∀ c ∈ blanks, isBlank c = true) (v : List Char) :
    ∀ {s : Scanner}, s.mode = .top →
      s.run (blanks ++ v) = (Scanner.mk .top (blanks.reverse ++ s.current) s.closed).run v := by
  induction blanks with
  | nil =>
    intro s hs
    rw [← hs]
    rfl
  | cons c rest ih =>
    intro s hs
    obtain ⟨hc, hrest⟩ := List.forall_mem_cons.1 h
    have htop : s.mode.isTop = true := by rw [hs]; rfl
    obtain ⟨_, _, hread⟩ := read_plain htop (isMark_of_isBlank hc) (rest ++ v)
    rw [List.cons_append, run_cons, hread, ih hrest rfl, List.reverse_cons, List.append_assoc]
    rfl

/-! ## §3. Literals and quoted identifiers -/

theorem doubling_cons (quote c : Char) (rest : List Char) :
    doubling quote (c :: rest)
      = (if c = quote then [quote, quote] else [c]) ++ doubling quote rest := by
  unfold doubling
  rw [List.flatMap_cons]

/-- Between two of these quotes the scanner stands `inside`, and behind a single one `outside`;
    from there another quote leads back, whatever comes behind it. -/
structure Encloses (quote : Char) (inside outside : Mode) : Prop where
  top : outside.isTop = true
  plain (s : Scanner) (c : Char) (ahead : List Char) : s.mode = inside → c ≠ quote →
    s.read c ahead = s.push c inside
  close (s : Scanner) (ahead : List Char) : s.mode = inside →
    s.read quote ahead = s.push quote outside
  again (s : Scanner) (ahead : List Char) : s.mode = outside →
    s.read quote ahead = s.push quote inside

/-- In a string a backslash is a character like any other. -/
theorem encloses_literal : Encloses '\'' (.literal false) (.closed false) where
  top := rfl
  plain s c ahead hs hc := by
    unfold Scanner.read
    rw [hs]
    dsimp only
    rw [beq_eq_false_iff_ne.2 hc, Bool.and_false]
    rfl
  close s ahead hs := by
    unfold Scanner.read
    rw [hs]
    rfl
  again s ahead hs := by
    unfold Scanner.read
    rw [hs]
    rfl

theorem encloses_quoted : Encloses '"' .quoted .top where
  top := rfl
  plain s c ahead hs hc := by
    unfold Scanner.read
    rw [hs]
    dsimp only
    rw [beq_eq_false_iff_ne.2 hc]
    rfl
  close s ahead hs := by
    unfold Scanner.read
    rw [hs]
    rfl
  again s ahead hs := by
    unfold Scanner.read
    rw [hs]
    rfl

/-- A text between quotes ends at the first quote that is not doubled. -/
theorem reads_enclosed {quote : Char} {inside outside : Mode} (h : Encloses quote inside outside)
    (body : List Char) : ∀ {s : Scanner}, s.mode = inside →
      s.Reads (doubling quote body ++ [quote]) (doubling quote body ++ [quote]) := by
  induction body with
  | nil => exact fun {s} hs => reads_cons (h.close s _ hs) (reads_nil h.top)
  | cons c rest ih =>
    intro s hs
    rw [doubling_cons, List.append_assoc]
    -- a quote of the text leads out by its first half and back in by its second
    by_cases hc : c = quote
    · rw [if_pos hc]
      exact reads_cons (h.close s _ hs) (reads_cons (h.again _ _ rfl) (ih rfl))
    · rw [if_neg hc]
      exact reads_cons (h.plain s c _ hs hc) (ih rfl)

/-- An escape string goes on behind a doubled quote and behind a shielded one. -/
theorem reads_pieces (body : List Piece) : ∀ {s : Scanner}, s.mode = .literal true →
    s.Reads (body.flatMap Piece.text ++ ['\'']) (body.flatMap Piece.text ++ ['\'']) := by
  -- one equation for the three ways on
  have hread : ∀ (s : Scanner) c ahead, s.mode = .literal true → s.read c ahead =
      s.push c (if c == '\'' then .closed true else if c == '\\' then .shielded
        else .literal true) := by
    intro s c ahead hs
    unfold Scanner.read
    rw [hs]
    dsimp only
    rw [Bool.and_true]
    split
    · rfl
    · split <;> rfl
  induction body with
  | nil => exact fun {s} hs => reads_cons (hread s _ _ hs) (reads_nil rfl)
  | cons piece rest ih =>
    intro s hs
    rw [List.flatMap_cons, List.append_assoc]
    cases piece with
    | plain c h =>
      have hc := hread s c (rest.flatMap Piece.text ++ ['\'']) hs
      rw [beq_eq_false_iff_ne.2 h.1, beq_eq_false_iff_ne.2 h.2] at hc
      exact reads_cons hc (ih rfl)
    | quote => exact reads_cons (hread s _ _ hs) (reads_cons rfl (ih rfl))
    | shielded c => exact reads_cons (hread s _ _ hs) (reads_cons rfl (ih rfl))

/-! ## §4. Comments and dollar quotes -/

/-- A comment up to the end of the line is dropped until it gets there. -/
theorem run_inside_lineComment {s : Scanner} (hs : s.mode = .lineComment) {text : List Char}
    (h : '\n' ∉ text) : s.run (text ++ ['\n']) = s.push '\n' .top := by
  induction text with
  | nil =>
    rw [List.nil_append, run_cons, run_nil, Scanner.read, hs]
    rfl
  | cons c rest ih =>
    rw [List.mem_cons, not_or] at h
    obtain ⟨hc, hrest⟩ := h
    have hread : s.read c (rest ++ ['\n']) = s := by
      unfold Scanner.read
      rw [hs]
      dsimp only
      rw [beq_eq_false_iff_ne.2 (Ne.symm hc)]
      rfl
    rw [List.cons_append, run_cons, hread]
    exact ih hrest

/-- A comment up to the end of the line leaves the end of the line. -/
theorem reads_lineComment {s : Scanner} (hs : s.mode.isTop = true) {text : List Char}
    (h : '\n' ∉ text) : s.Reads ('-' :: '-' :: (text ++ ['\n'])) ['\n'] := by
  refine ⟨.top, rfl, ?_⟩
  rw [run_cons, read_top hs]
  show (Scanner.mk .lineComment s.current s.closed).run (text ++ ['\n']) = _
  rw [run_inside_lineComment rfl h]
  rfl

theorem reads_comment {s : Scanner} (hs : s.mode.isTop = true) {text : List Char}
    (h : EndsFirst closingBracket text) :
    s.Reads (openingBracket ++ text ++ closingBracket) [' '] := by
  have hrun := run_comment hs h []
  rw [List.append_nil] at hrun
  exact ⟨.top, rfl, hrun⟩

theorem reads_dollar {s : Scanner} (hs : s.mode.isTop = true)
    (hcurrent : s.current.head?.any isNameChar = false) {tag body : List Char}
    (htag : ∀ c ∈ tag, isAscii c = true ∧ isNameChar c = true)
    (h : EndsFirst (dollarDelimiter tag) body) :
    let text := dollarDelimiter tag ++ body ++ dollarDelimiter tag
    s.Reads text text := by
  intro text
  have hname : tag.all isNameChar = true := List.all_eq_true.2 fun c hc => (htag c hc).2
  -- nothing of the body is read along with the opening delimiter
  have hlength : tag.length + 1 + ([] : List Char).length = openerLength tag :=
    (openerLength_ascii fun c hc => (htag c hc).1).symm
  have hrun := run_dollar hs hcurrent hname hlength h []
  dsimp only at hrun
  rw [List.append_nil, List.append_nil] at hrun
  exact ⟨.top, rfl, hrun⟩

/-! ## §5. Items -/

/-- The scanner is where any token may begin: at top level, behind a blank or at the front of a
    statement. -/
def Scanner.Ready (s : Scanner) : Prop := s.mode = .top ∧ s.current.head?.all isBlank = true

theorem quoteKind_of_ready {s : Scanner} (h : s.Ready) : s.quoteKind = false := by
  obtain ⟨hmode, hblank⟩ := h
  unfold Scanner.quoteKind
  rw [hmode]
  dsimp only
  cases hcurrent : s.current with
  | nil => rfl
  | cons b rest =>
    rw [hcurrent, List.head?_cons, Option.all_some] at hblank
    have hE : b ≠ 'E' := ne_of_isBlank hblank (by decide)
    have he : b ≠ 'e' := ne_of_isBlank hblank (by decide)
    simp [opensEscapes, hE, he]

theorem nameless_of_ready {s : Scanner} (h : s.Ready) :
    s.current.head?.any isNameChar = false := by
  cases hcurrent : s.current.head? with
  | none => rfl
  | some b =>
    have hblank := h.2
    rw [hcurrent, Option.all_some] at hblank
    exact isNameChar_of_isBlank hblank

/-- Behind its letter an escape string is a literal with shielded characters. -/
theorem reads_escapes {s : Scanner} (h : s.Ready) (capital : Bool) (body : List Piece) :
    s.Reads (Item.escapes capital body).text (Item.escapes capital body).text := by
  have htop : s.mode.isTop = true := by rw [h.1]; rfl
  -- the letter stands behind no name, so it is the mark of an escape string
  have hletter : ∀ c, c = 'E' ∨ c = 'e' → opensEscapes (c :: s.current) = true := by
    intro c hc
    show ((c == 'E' || c == 'e') && !(s.current.head?.any isNameChar)) = true
    rw [nameless_of_ready h]
    rcases hc with rfl | rfl <;> rfl
  have hquote : ∀ c ahead, c = 'E' ∨ c = 'e' →
      (s.push c .top).read '\'' ahead = (s.push c .top).push '\'' (.literal true) := by
    intro c ahead hc
    rw [read_top rfl]
    show (s.push c .top).push '\'' (.literal (opensEscapes (c :: s.current))) = _
    rw [hletter c hc]
  cases capital with
  | true =>
    refine reads_cons (read_plain htop (by decide) _).2.2 ?_
    exact reads_cons (hquote 'E' _ (.inl rfl)) (reads_pieces body rfl)
  | false =>
    refine reads_cons (read_plain htop (by decide) _).2.2 ?_
    exact reads_cons (hquote 'e' _ (.inr rfl)) (reads_pieces body rfl)

/-- **The scanner reads a token as the grammar has it**, and is at top level behind it. -/
theorem reads_item {s : Scanner} (h : s.Ready) {item : Item} (htoken : item.isFree = false) :
    s.Reads item.text item.kept := by
  have htop : s.mode.isTop = true := by rw [h.1]; rfl
  cases item with
  | word text hword => exact reads_word hword.plain hword.line hword.bracket htop
  | literal body =>
    have hopen : ∀ ahead, s.read '\'' ahead = s.push '\'' (.literal false) := by
      intro ahead
      rw [read_top htop, quoteKind_of_ready h]
      rfl
    exact reads_cons (hopen _) (reads_enclosed encloses_literal body rfl)
  | escapes capital body => exact reads_escapes h capital body
  | quoted name =>
    have hopen : ∀ ahead, s.read '"' ahead = s.push '"' .quoted := by
      intro ahead
      rw [read_top htop]
      rfl
    exact reads_cons (hopen _) (reads_enclosed encloses_quoted name rfl)
  | dollar tag body htag hbody => exact reads_dollar htop (nameless_of_ready h) htag hbody
  | lineComment text hline => exact reads_lineComment htop hline
  | comment text _ hfirst => exact reads_comment htop hfirst
  | gap blanks _ _ => exact Bool.noConfusion htoken
  | separator => exact Bool.noConfusion htoken

/-- Blanks make the scanner ready for any token, and they are read without regard to it. -/
theorem run_gap {s : Scanner} (hs : s.mode.isTop = true) {blanks : List Char} (hne : blanks ≠ [])
    (h : ∀ c ∈ blanks, isBlank c = true) (v : List Char) :
    let t := Scanner.mk .top (blanks.reverse ++ s.current) s.closed
    s.run (blanks ++ v) = t.run v ∧ t.Ready := by
  intro t
  constructor
  · cases blanks with
    | nil => exact absurd rfl hne
    | cons c rest =>
      obtain ⟨hc, hrest⟩ := List.forall_mem_cons.1 h
      have hread := (read_plain hs (isMark_of_isBlank hc) (rest ++ v)).2.2
      rw [List.cons_append, run_cons, hread, run_blanks hrest v rfl]
      show (Scanner.mk .top (rest.reverse ++ c :: s.current) s.closed).run v = _
      simp [t]
  · refine ⟨rfl, ?_⟩
    rcases List.eq_nil_or_concat blanks with hnil | ⟨front, last, rfl⟩
    · exact absurd hnil hne
    · simp [t, h]

/-! ## §6. Scripts -/

/-- The statements of the groups of a script, the first of which is open already. -/
def Scanner.completed (s : Scanner) : List (List Item) → List (List Char)
  | [] => []
  | group :: rest =>
    whole (s.current.reverse ++ group.flatMap Item.kept) ++
      rest.flatMap fun group => whole (group.flatMap Item.kept)

/-- Behind an item the open statement goes on with the rest of its group. -/
theorem completed_grown {s t : Scanner} {item : Item}
    (h : t.current = item.kept.reverse ++ s.current) (groups : List (List Item)) :
    t.completed groups = s.completed (groups.modifyHead (item :: ·)) := by
  cases groups with
  | nil => rfl
  | cons group rest =>
    show whole (t.current.reverse ++ _) ++ _ = whole (s.current.reverse ++ _) ++ _
    rw [h, List.flatMap_cons, List.reverse_append, List.reverse_reverse, List.append_assoc]

/-- A semicolon completes the open statement. -/
theorem completed_separator (s : Scanner) {groups : List (List Item)} :
    whole s.current.reverse ++ s.cut.completed groups = s.completed ([] :: groups) := by
  show _ = whole (s.current.reverse ++ []) ++ _
  rw [List.append_nil]
  cases groups with
  | nil => rfl
  | cons group rest => rfl

theorem startsApart_scriptOf {items : List Item} (h : ∀ item ∈ items.head?, item.isFree = true) :
    startsApart (scriptOf items) = true := by
  cases items with
  | nil => rfl
  | cons item rest =>
    have hfree : item.isFree = true := h item rfl
    cases item with
    | gap blanks hne hblanks =>
      cases blanks with
      | nil => exact absurd rfl hne
      | cons b blanks => exact isBoundary_of_isBlank (hblanks b List.mem_cons_self)
    | separator =>
      exact startsApart_semicolon _
    | _ => exact Bool.noConfusion hfree

/-- The scan of a script, from anywhere at top level where its first item may stand. -/
theorem run_items {items : List Item} (hchain : items.IsChain Item.Apart) :
    ∀ {s : Scanner}, s.mode.isTop = true →
      (∀ item ∈ items.head?, item.isFree = false → s.Ready) →
      (s.run (scriptOf items)).cut.closed.reverse
        = s.closed.reverse ++ s.completed (items.splitOnP Item.isSeparator) := by
  induction items with
  | nil =>
    intro s _ _
    show s.cut.closed.reverse = s.closed.reverse ++ (whole (s.current.reverse ++ []) ++ [])
    rw [closed_cut, List.reverse_append, reverse_whole, List.append_nil, List.append_nil]
  | cons item rest ih =>
    intro s hs hready
    obtain ⟨hnext, htail⟩ := List.isChain_cons.1 hchain
    have hscript : scriptOf (item :: rest) = item.text ++ scriptOf rest := List.flatMap_cons
    rw [hscript, List.splitOnP_cons_eq_if_modifyHead]
    cases hfree : item.isFree with
    | false =>
      have hplain : item.isSeparator = false := by
        cases item with
        | separator => exact Bool.noConfusion hfree
        | _ => rfl
      -- behind a token there are blanks, a semicolon or nothing, which end every look-ahead
      have hfollow : ∀ y ∈ rest.head?, y.isFree = true := by
        intro y hy
        refine (hnext y hy).resolve_left ?_
        rw [hfree]
        exact Bool.false_ne_true
      obtain ⟨mode, htop, hrun⟩ := reads_item (hready item rfl hfree) hfree
      rw [run_append s (startsApart_scriptOf hfollow), hrun, hplain, if_neg Bool.false_ne_true,
        ih htail htop, completed_grown rfl]
      intro y hy hy'
      rw [hfollow y hy] at hy'
      exact Bool.noConfusion hy'
    | true =>
      cases item with
      | gap blanks hne hblanks =>
        obtain ⟨hrun, hgap⟩ := run_gap hs hne hblanks (scriptOf rest)
        -- blanks end no statement
        have hgrown : (Scanner.mk .top (blanks.reverse ++ s.current) s.closed).completed
              (rest.splitOnP Item.isSeparator)
            = s.completed ((rest.splitOnP Item.isSeparator).modifyHead
                (Item.gap blanks hne hblanks :: ·)) := completed_grown rfl _
        rw [show (Item.gap blanks hne hblanks).text = blanks from rfl, hrun,
          ih htail rfl fun _ _ _ => hgap, hgrown]
        rfl
      | separator =>
        rw [show Item.separator.text ++ scriptOf rest = ';' :: scriptOf rest from rfl, run_cons,
          read_semicolon hs, ih htail rfl fun _ _ _ => ⟨rfl, rfl⟩, closed_cut, List.reverse_append,
          reverse_whole, List.append_assoc, completed_separator]
        rfl
      | _ => exact Bool.noConfusion hfree

/-- **The splitter accepts its grammar.**  Whatever its items are, a script whose tokens stand apart
    falls into the texts between its semicolons. -/
theorem fragments_grammar (items : List Item) (hchain : items.IsChain Item.Apart) :
    fragments (scriptOf items) = statementsOf items := by
  have hrun := run_items hchain (s := .start) rfl fun _ _ _ => ⟨rfl, rfl⟩
  show (Scanner.start.run (scriptOf items)).cut.closed.reverse = _
  rw [hrun]
  unfold statementsOf
  cases items.splitOnP Item.isSeparator with
  | nil => rfl
  | cons group groups => rfl

/-- One blank. -/
def Item.blank : Item :=
  .gap [' '] (List.cons_ne_nil _ _) (List.forall_mem_singleton.2 (by decide))

theorem isWord_minus : IsWord ['f', '-'] where
  nonempty := List.cons_ne_nil _ _
  unblank := List.forall_mem_cons.2 ⟨by decide, List.forall_mem_singleton.2 (by decide)⟩
  plain := List.forall_mem_cons.2 ⟨by decide, List.forall_mem_singleton.2 (by decide)⟩
  line := by decide
  bracket := by decide

/-- A statement with a semicolon in every item that may hold one, and another behind it. -/
def semicolons : List Item :=
  [.word ['f', '-'] isWord_minus, .blank, .literal ['\'', ';', '\\'], .blank,
    .escapes true [.shielded '\'', .plain ';' (by decide)], .blank, .quoted ['"', ';'], .blank,
    .dollar ['t'] [';'] (List.forall_mem_singleton.2 (by decide))
      ((endsFirst_nil _).cons (by decide)), .blank,
    .lineComment [';'] (by decide), .blank,
    .comment [';'] (by decide) ((endsFirst_nil _).cons (by decide)), .separator,
    .escapes false [.quote]]

/-- No semicolon inside of an item ends the statement. -/
theorem semicolons_shielded :
    semicolons.IsChain Item.Apart ∧
      fragments (scriptOf semicolons)
        = ["f- ''';\\' E'\\';' \"\"\";\" $t$;$t$".toList, "e''''".toList] := by
  have hchain : semicolons.IsChain Item.Apart := by decide +kernel
  refine ⟨hchain, ?_⟩
  rw [fragments_grammar semicolons hchain]
  decide +kernel

end ScriptGate.Script
