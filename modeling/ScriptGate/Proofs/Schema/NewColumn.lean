/-
  ScriptGate.Proofs.Schema.NewColumn — previews of columns that are added to a table.

  An ALTER TABLE may have any number of ADD COLUMN clauses.  Of each of them, in order, it is told
  whether the column is there already.  The table is found by its name in capitals, and its columns
  are looked up under its name in small letters: so they are found only if the table bears a name in
  small letters.
  Main statements:
    - `isSome_addColumn`            — where a clause is found;
    - `go_capitalised`              — the clauses of a statement are found one by one;
    - `predictStatement_alteration` — what is told of them;
    - `columns_looked_up`           — which columns are told to be there already.
-/
import ScriptGate.Proofs.Schema.Layout
import ScriptGate.Proofs.Schema.Normal

namespace ScriptGate.Schema

open ScriptGate.Script ScriptGate.Statement ScriptGate.Text ScriptGate.Text.Pattern

/-! ## §1. Clauses -/

/-- A clause `ADD COLUMN name type`.  The name consists of word characters in capitals; the type has
    no such clause in it and does not open with the word NOT. -/
structure NewColumn where
  words : Phrase ["ADD", "COLUMN"]
  guard : Option (Phrase ["IF", "NOT", "EXISTS"])
  name : List Char
  isWord_name : (upper name).all isWordChar = true
  name_ne_nil : name ≠ []
  gap : Gap
  type : List Char
  type_ne_nil : type ≠ []
  head_type : type.head?.any isBlank = false
  last_type : type.getLast?.any isBlank = false
  sole_type : addColumnPattern.occurs (normalise type) = false
  opens_type : (upper type).takeWhile isWordChar ≠ "NOT".toList

namespace NewColumn

variable (c : NewColumn)

/-- The clause as it is written. -/
def text : List Char :=
  c.words.text ++ c.guard.elim [] Phrase.text ++ c.name ++ c.gap.text ++ c.type

/-- IF NOT EXISTS, in capitals with single blanks, where it is written. -/
def guardWords : List Char := if c.guard.isSome then spaced ["IF", "NOT", "EXISTS"] else []

/-- The clause up to the name, in capitals with single blanks. -/
def opening : List Char := spaced ["ADD", "COLUMN"] ++ (c.guardWords ++ upper c.name)

/-- The type in capitals with single blanks. -/
def capitalType : List Char := collapse (upper c.type)

end NewColumn

/-- A comma with the blanks around it. -/
structure Comma where
  left : List Char
  right : List Char
  isBlank_left : left.all isBlank = true
  isBlank_right : right.all isBlank = true

/-- The comma as it is written. -/
def Comma.text (k : Comma) : List Char := k.left ++ ',' :: k.right

/-- The comma with single blanks. -/
def Comma.normal (k : Comma) : List Char := collapse k.left ++ ',' :: collapse k.right

/-- Clauses with commas between them, as they are written. -/
def written (c : NewColumn) : List (Comma × NewColumn) → List Char
  | [] => c.text
  | (comma, next) :: rest => c.text ++ (comma.text ++ written next rest)

/-- Clauses with commas between them, in capitals with single blanks. -/
def capitalised (c : NewColumn) : List (Comma × NewColumn) → List Char
  | [] => c.opening ++ ' ' :: c.capitalType
  | (comma, next) :: rest =>
    c.opening ++ (' ' :: (c.capitalType ++ comma.normal) ++ capitalised next rest)

/-! ## §2. Their normal form -/

theorem collapse_all_blank {x : List Char} (h : x.all isBlank = true) :
    ∀ c ∈ collapse x, c = ' ' := by
  cases x with
  | nil => exact nofun
  | cons c rest =>
    rw [List.all_cons, Bool.and_eq_true] at h
    have hgap := collapse_gap ⟨c, rest, h.1, h.2⟩
    intro d hd
    rw [show collapse (c :: rest) = [' '] from hgap] at hd
    exact List.mem_singleton.1 hd

theorem Comma.upper_text (k : Comma) : upper k.text = k.text := by
  have hblank : ∀ {x : List Char}, x.all isBlank = true → ∀ c ∈ x, upperOf c = [c] :=
    fun h c hc => upperOf_of_isBlank (List.all_eq_true.1 h c hc)
  exact upper_of_forall (List.forall_mem_append.2
    ⟨hblank k.isBlank_left, List.forall_mem_cons.2 ⟨by decide, hblank k.isBlank_right⟩⟩)

theorem Comma.collapse_text (k : Comma) : collapse k.text = k.normal := by
  have hcomma : ([','] : List Char).getLast?.any isBlank = false := by decide
  have hright : collapse (',' :: k.right) = ',' :: collapse k.right :=
    collapse_append (x := [',']) (.inl hcomma)
  unfold Comma.text Comma.normal
  rw [collapse_append (.inr (show (',' :: k.right).head?.any isBlank = false from by
    exact show isBlank ',' = false by decide)), hright]

namespace NewColumn

variable (c : NewColumn)

theorem solid_name : ∀ d ∈ upper c.name, isBlank d = false := solid_of_word c.isWord_name

theorem head?_name (rest : List Char) : (upper c.name ++ rest).head?.any isBlank = false :=
  head?_solid c.solid_name (upper_ne_nil c.name_ne_nil) rest

/-- The clause in capitals with single blanks. -/
theorem collapse_text : collapse (upper c.text) = c.opening ++ ' ' :: c.capitalType := by
  have htype : (upper c.type).head?.any isBlank = false := isBlank_head?_upper c.head_type
  have hname := c.head?_name (c.gap.text ++ upper c.type)
  unfold text opening guardWords capitalType
  simp only [upper_append, upper_gap, List.append_assoc]
  cases c.guard with
  | none =>
    have hcollapse := collapse_phrase (by decide) hname c.words
    rw [collapse_word_gap c.solid_name c.gap htype] at hcollapse
    exact hcollapse
  | some guard =>
    have hguard := head?_phrase (by decide) hname guard
    show collapse (upper c.words.text ++ (upper guard.text ++ (upper c.name ++ _))) = _
    rw [collapse_phrase (by decide) hguard, collapse_phrase (by decide) hname,
      collapse_word_gap c.solid_name c.gap htype]
    rfl

theorem getLast?_text : (upper c.text).getLast?.any isBlank = false := by
  have htype := isBlank_getLast?_upper c.last_type
  unfold text
  rw [upper_append, List.getLast?_append,
    List.getLast?_eq_some_getLast (upper_ne_nil c.type_ne_nil)]
  rwa [List.getLast?_eq_some_getLast (upper_ne_nil c.type_ne_nil)] at htype

theorem capitalType_eq : c.capitalType = normalise c.type := by
  have hhead : (collapse (upper c.type)).head?.any isBlank = false := by
    rw [head?_collapse fun d hd => by rw [hd]; decide]
    exact isBlank_head?_upper c.head_type
  exact (trim_eq_self hhead (getLast?_collapse (isBlank_getLast?_upper c.last_type))).symm

end NewColumn

theorem head?_written (c : NewColumn) (others : List (Comma × NewColumn)) :
    (upper (written c others)).head?.any isBlank = false := by
  have htext : ∀ y, (upper (c.text ++ y)).head?.any isBlank = false := by
    intro y
    unfold NewColumn.text
    simp only [List.append_assoc]
    exact head?_first (by decide) c.words _
  cases others with
  | nil =>
    rw [written, ← List.append_nil c.text]
    exact htext []
  | cons _ _ => exact htext _

theorem written_ne_nil (c : NewColumn) (others : List (Comma × NewColumn)) :
    written c others ≠ [] := by
  have htext : c.text ≠ [] := List.append_ne_nil_of_right_ne_nil _ c.type_ne_nil
  cases others with
  | nil => exact htext
  | cons _ _ => exact List.append_ne_nil_of_left_ne_nil htext _

theorem getLast?_written (c : NewColumn) (others : List (Comma × NewColumn)) :
    (upper (written c others)).getLast?.any isBlank = false := by
  induction others generalizing c with
  | nil => exact c.getLast?_text
  | cons other rest ih =>
    obtain ⟨comma, next⟩ := other
    have hlast := List.getLast?_eq_some_getLast (upper_ne_nil (written_ne_nil next rest))
    have hrest := ih next
    rw [hlast] at hrest
    rw [written, upper_append, upper_append, ← List.append_assoc, List.getLast?_append, hlast]
    exact hrest

/-- **Clauses in capitals with single blanks.** -/
theorem collapse_written (c : NewColumn) (others : List (Comma × NewColumn)) :
    collapse (upper (written c others)) = capitalised c others := by
  induction others generalizing c with
  | nil => exact c.collapse_text
  | cons other rest ih =>
    obtain ⟨comma, next⟩ := other
    rw [written, capitalised, upper_append, upper_append, comma.upper_text,
      collapse_append (.inl c.getLast?_text), collapse_append (.inr (head?_written next rest)),
      c.collapse_text, comma.collapse_text, ih]
    simp only [List.append_assoc, List.cons_append]

/-! ## §3. Where a clause is found -/

/-- A clause may begin here: ADD COLUMN with a name behind it, and no word goes on in front. -/
def OpensClause (p : Place) : Prop :=
  p.before.any isWordChar = false ∧ ∃ (gap₁ gap₂ : Gap) (d : Char) (more : List Char),
    isWordChar d = true ∧
      p.ahead = "ADD".toList ++ (gap₁.text ++ ("COLUMN".toList ++ (gap₂.text ++ d :: more)))

/-- A name behind the words, with IF NOT EXISTS in front perhaps, begins with a word character. -/
theorem exists_head_of_spans {p q : Place}
    (h : (all [optional (phrase ["IF", "NOT", "EXISTS"]), .group (.run 1 isWordChar)]).Spans p q) :
    ∃ d more, isWordChar d = true ∧ p.ahead = d :: more := by
  obtain ⟨r, hguard | hhere, _, ⟨taken, hall, hleast, hpassed⟩, -⟩ := h
  · obtain ⟨_, _, hp, -⟩ := spans_phrase hguard
    exact ⟨'I', _, by decide, hp⟩
  · obtain rfl : p = r := hhere
    obtain ⟨d, rest, rfl⟩ := List.exists_cons_of_length_pos hleast
    exact ⟨d, _, List.all_eq_true.1 hall d List.mem_cons_self, hpassed.ahead⟩

theorem opensClause_of_spans {p q : Place} (h : addColumnPattern.Spans p q) : OpensClause p := by
  obtain ⟨_, ⟨hedge, rfl⟩, r, hwords, hname⟩ := h
  obtain ⟨gap₁, r₁, hp, hrest⟩ := spans_phrase hwords
  obtain ⟨gap₂, r₂, hr₁, hnil⟩ := spans_phrase hrest
  obtain rfl : r₂ = r := hnil
  obtain ⟨d, more, hd, hr₂⟩ := exists_head_of_spans hname
  refine ⟨?_, gap₁, gap₂, d, more, hd, by rw [hp, hr₁, hr₂]⟩
  have hletter : ("ADD".toList ++ (gap₁.text ++ r₁.ahead)).head?.any isWordChar = true :=
    show isWordChar 'A' = true by decide
  rw [Place.isWordEdge, hp, hletter] at hedge
  simpa using hedge

theorem spans_of_opensClause {p : Place} (h : OpensClause p) : ∃ q, addColumnPattern.Spans p q := by
  obtain ⟨hbefore, gap₁, gap₂, d, more, hd, hp⟩ := h
  have hedge : p.isWordEdge = true := by
    rw [Place.isWordEdge, hbefore, hp]
    exact show (false != isWordChar 'A') = true by decide
  obtain ⟨r₁, hr₁, hadd⟩ := spans_phrase_of ["COLUMN"] hp
  obtain ⟨r, hr, hcolumn⟩ := spans_phrase_of [] hr₁
  have hname : r.Passed ⟨some d, more⟩ [d] := ⟨hr, rfl⟩
  exact ⟨⟨some d, more⟩, p, ⟨hedge, rfl⟩, r, hadd r (hcolumn r rfl), r, .inr rfl, ⟨some d, more⟩,
    ⟨[d], by rw [List.all_cons, hd]; rfl, Nat.le_refl 1, hname⟩, rfl⟩

/-- **Where a clause is found**: where it may begin. -/
theorem isSome_addColumn (p : Place) :
    (addColumnPattern.matchAt p).isSome = true ↔ OpensClause p := by
  rw [isSome_matchAt]
  exact ⟨fun ⟨_, h⟩ => opensClause_of_spans h, spans_of_opensClause⟩

theorem matchAt_eq_none {p : Place} (h : ¬ OpensClause p) : addColumnPattern.matchAt p = none := by
  rw [← Option.not_isSome_iff_eq_none, isSome_addColumn]
  exact h

/-! ## §4. Where none is found -/

/-- What a clause begins with: ADD COLUMN and the first character of a name. -/
def clauseFront (gap₁ gap₂ : Gap) (d : Char) : List Char :=
  "ADD".toList ++ (gap₁.text ++ ("COLUMN".toList ++ (gap₂.text ++ [d])))

theorem comma_not_mem {gap₁ gap₂ : Gap} {d : Char} (hd : isWordChar d = true) :
    ',' ∉ clauseFront gap₁ gap₂ d := by
  have hgap : ∀ g : Gap, ',' ∉ g.text :=
    fun g hmem => absurd (isBlank_gap g ',' hmem) (by decide)
  have hname : ',' ∉ [d] := by
    intro hmem
    rw [← List.mem_singleton.1 hmem] at hd
    exact absurd hd (by decide)
  simp only [clauseFront, List.mem_append, not_or]
  exact ⟨by decide, hgap gap₁, by decide, hgap gap₂, hname⟩

/-- Behind a type there is nothing, or a comma. -/
def Closes (rest : List Char) : Prop :=
  rest = [] ∨ ∃ blanks more, blanks.all isBlank = true ∧ rest = blanks ++ ',' :: more

/-- A clause that begins in front of a comma is there without it. -/
theorem front_within {gap₁ gap₂ : Gap} {d : Char} (hd : isWordChar d = true)
    {text rest more : List Char} (hrest : Closes rest)
    (h : text ++ rest = clauseFront gap₁ gap₂ d ++ more) :
    ∃ behind, text = clauseFront gap₁ gap₂ d ++ behind := by
  rcases List.append_eq_append_iff.1 h with ⟨beyond, hfront, hsplit⟩ | ⟨behind, htext, -⟩
  · -- what there is of it behind the text would lie in front of the comma and end with a name
    by_cases hnil : beyond = []
    · rw [hnil, List.append_nil] at hfront
      exact ⟨[], by rw [hfront, List.append_nil]⟩
    have hlast : d ∈ beyond := by
      have hend : (text ++ beyond).getLast? = some d := by
        rw [← hfront]
        simp only [clauseFront, ← List.append_assoc, List.getLast?_concat]
      rw [List.getLast?_append, List.getLast?_eq_some_getLast hnil] at hend
      exact Option.some.inj hend ▸ List.getLast_mem hnil
    rcases hrest with rfl | ⟨blanks, behind, hblanks, rfl⟩
    · exact absurd (List.append_eq_nil_iff.1 hsplit.symm).1 hnil
    have hname : d ∉ blanks := by
      intro hmem
      rw [isWordChar_of_isBlank (List.all_eq_true.1 hblanks d hmem)] at hd
      exact Bool.noConfusion hd
    rcases List.append_eq_append_iff.1 hsplit with ⟨name, rfl, hcomma⟩ | ⟨_, rfl, -⟩
    · cases name with
      | nil =>
        rw [List.append_nil] at hlast
        exact absurd hlast hname
      | cons e _ =>
        obtain ⟨rfl, -⟩ := List.cons.inj hcomma
        have hmem : ',' ∈ clauseFront gap₁ gap₂ d := by
          rw [hfront]
          exact List.mem_append_right _ (List.mem_append_right _ List.mem_cons_self)
        exact absurd hmem (comma_not_mem hd)
    · exact absurd (List.mem_append_left _ hlast) hname
  · exact ⟨behind, htext⟩

theorem opensClause_iff {p : Place} : OpensClause p ↔ p.before.any isWordChar = false ∧
    ∃ (gap₁ gap₂ : Gap) (d : Char) (more : List Char), isWordChar d = true ∧
      p.ahead = clauseFront gap₁ gap₂ d ++ more := by
  simp only [OpensClause, clauseFront, List.append_assoc, List.singleton_append]

/-- A clause begins with the letter A. -/
theorem head_of_opensClause {before : Option Char} {e : Char} {rest : List Char}
    (h : OpensClause ⟨before, e :: rest⟩) : e = 'A' := by
  obtain ⟨-, _, _, _, _, -, hp⟩ := h
  exact (List.cons.inj hp).1

/-- **No clause begins in a type**, nor in the comma behind it. -/
theorem go_type (c : NewColumn) {before : Option Char} {closing rest : List Char}
    (hclosing : ∀ e ∈ closing, e ≠ 'A') (hrest : Closes (closing ++ rest)) :
    findAll.go addColumnPattern 0 before (' ' :: (c.capitalType ++ closing) ++ rest)
      = findAll.go addColumnPattern 0 ((' ' :: (c.capitalType ++ closing)).getLast?.or before)
          rest := by
  refine go_skip fun x y hxy hy => matchAt_eq_none fun hopens => ?_
  obtain ⟨e, behind, rfl⟩ := List.exists_cons_of_ne_nil hy
  have he : e = 'A' := head_of_opensClause hopens
  -- the blank in front is passed
  cases x with
  | nil =>
    rw [(List.cons.inj hxy).1.symm] at he
    exact absurd he (by decide)
  | cons b x =>
    obtain ⟨rfl, htext⟩ := List.cons.inj hxy
    rcases List.append_eq_append_iff.1 htext with ⟨z, -, hz⟩ | ⟨z, htype, hz⟩
    · exact hclosing e (hz ▸ List.mem_append_right _ List.mem_cons_self) he
    · -- a clause that begins in the type is there without what stands behind it
      obtain ⟨hbefore, gap₁, gap₂, d, more, hd, hahead⟩ := opensClause_iff.1 hopens
      have hfront : z ++ (closing ++ rest) = clauseFront gap₁ gap₂ d ++ more := by
        rw [← List.append_assoc, ← hz]
        exact hahead
      obtain ⟨within, hwithin⟩ := front_within hd hrest hfront
      have hedge : x.getLast?.any isWordChar = false := by
        rw [getLast?_cons_or] at hbefore
        cases hlast : x.getLast? with
        | none => rfl
        | some f =>
          rw [hlast] at hbefore
          exact hbefore
      have hoccurs : addColumnPattern.occurs c.capitalType = true := by
        rw [occurs_iff]
        refine ⟨⟨x.getLast?, z⟩, mem_places.2 ⟨x, htype, (Option.or_none).symm⟩, ?_⟩
        rw [isSome_addColumn, opensClause_iff]
        exact ⟨hedge, gap₁, gap₂, d, within, hd, hwithin⟩
      rw [c.capitalType_eq, c.sole_type] at hoccurs
      exact Bool.noConfusion hoccurs

/-! ## §5. The clauses of a statement -/

namespace NewColumn

variable (c : NewColumn)

theorem head?_capitalType (rest : List Char) :
    (c.capitalType ++ rest).head?.any isBlank = false := by
  have hhead : c.capitalType.head?.any isBlank = false := by
    rw [c.capitalType_eq]
    exact (trim_ends _).1
  have hne : c.capitalType ≠ [] := collapse_ne_nil (upper_ne_nil c.type_ne_nil)
  obtain ⟨e, more, hcons⟩ := List.exists_cons_of_ne_nil hne
  rw [hcons] at hhead ⊢
  exact hhead

section

variable {before : Option Char} {rest : List Char} (hrest : rest.head?.any isWordChar = false)
include hrest

/-- No name is taken for IF NOT EXISTS. -/
theorem not_guarded (q : Place) : ¬ (phrase ["IF", "NOT", "EXISTS"]).Spans
    ⟨before, upper c.name ++ ' ' :: (c.capitalType ++ rest)⟩ q := by
  intro hspans
  obtain ⟨-, r, hr, hnot⟩ := spans_phrase_apart hspans (forall_of_all (by decide)) rfl c.solid_name
    (c.head?_capitalType rest)
  obtain ⟨gap, behind, hahead, -⟩ := spans_phrase hnot
  have hsplit : c.capitalType.takeWhile isWordChar
      ++ (c.capitalType.dropWhile isWordChar ++ rest)
        = "NOT".toList ++ (gap.text ++ behind.ahead) := by
    rw [← List.append_assoc, List.takeWhile_append_dropWhile, ← hr, hahead]
  have hbehind : (c.capitalType.dropWhile isWordChar ++ rest).head?.any isWordChar = false := by
    have hhead := List.head?_dropWhile_not isWordChar c.capitalType
    cases hdrop : c.capitalType.dropWhile isWordChar with
    | nil => exact hrest
    | cons e _ =>
      rw [hdrop] at hhead
      exact hhead
  have hfirst := (divided_once hsplit (List.all_eq_true.1 List.all_takeWhile)
    (forall_of_all (by decide)) hbehind (isWordChar_of_isBlank gap.isBlank_first)).1
  -- the word behind the name would be NOT, and no type begins with it
  refine c.opens_type ?_
  rw [← hfirst, capitalType, takeWhile_collapse fun d hd => isWordChar_of_isBlank hd]

theorem step_name (total : Nat) :
    (all [optional (phrase ["IF", "NOT", "EXISTS"]), .group (.run 1 isWordChar)]).step
        ⟨some ' ', c.guardWords ++ (upper c.name ++ ' ' :: (c.capitalType ++ rest))⟩ []
        (fun q seen => some (Match.mk (total - q.ahead.length) seen))
      = some ⟨total - (' ' :: (c.capitalType ++ rest)).length, upper c.name⟩ := by
  have hbehind : (' ' :: (c.capitalType ++ rest)).head?.any isWordChar = false :=
    show isWordChar ' ' = false by decide
  have hname : ∀ before seen, (group (.run 1 isWordChar)).step
      ⟨before, upper c.name ++ ' ' :: (c.capitalType ++ rest)⟩ seen
      (fun q seen => some (Match.mk (total - q.ahead.length) seen))
        = some ⟨total - (' ' :: (c.capitalType ++ rest)).length, upper c.name⟩ :=
    fun _ _ => step_group_run (upper_ne_nil c.name_ne_nil) (List.all_eq_true.1 c.isWord_name)
      hbehind rfl
  unfold guardWords
  cases c.guard with
  | none => exact (step_optional (c.not_guarded hrest) _).trans (hname (some ' ') [])
  | some g =>
    show Option.or ((phrase ["IF", "NOT", "EXISTS"]).step ⟨_, spaced _ ++ _⟩ _ _) _ = _
    rw [step_phrase (by decide) (c.head?_name _)]
    exact congrArg (Option.or · _) (hname (some ' ') [])

/-- What is found of a clause. -/
theorem matchAt_opening (hbefore : before.any isWordChar = false) :
    addColumnPattern.matchAt ⟨before, c.opening ++ ' ' :: (c.capitalType ++ rest)⟩
      = some ⟨c.opening.length, upper c.name⟩ := by
  have hahead : c.opening ++ ' ' :: (c.capitalType ++ rest)
      = spaced ["ADD", "COLUMN"] ++
          (c.guardWords ++ (upper c.name ++ ' ' :: (c.capitalType ++ rest))) := by
    unfold opening
    simp only [List.append_assoc]
  have hedge : (Place.mk before (c.opening ++ ' ' :: (c.capitalType ++ rest))).isWordEdge = true := by
    rw [Place.isWordEdge, hbefore, hahead, spaced_append]
    exact show (false != isWordChar 'A') = true by decide
  have hbehind : (c.guardWords ++ (upper c.name ++ ' ' :: (c.capitalType ++ rest))).head?.any
      isBlank = false := by
    unfold guardWords
    split
    · exact head?_spaced (by decide) (c.head?_name _)
    · exact c.head?_name _
  have hlength : (c.opening ++ ' ' :: (c.capitalType ++ rest)).length
      - (' ' :: (c.capitalType ++ rest)).length = c.opening.length := by
    rw [List.length_append, Nat.add_sub_cancel]
  have hname := c.step_name hrest (c.opening ++ ' ' :: (c.capitalType ++ rest)).length
  rw [hlength] at hname
  unfold matchAt addColumnPattern
  refine (if_pos hedge).trans ?_
  dsimp only
  -- behind the edge only the length of the text matters
  generalize (c.opening ++ ' ' :: (c.capitalType ++ rest)).length = total at hname ⊢
  rw [hahead]
  exact (step_all_phrase (by decide) hbehind _ _).trans hname

end

end NewColumn

namespace Comma

variable (k : Comma)

theorem mem_normal {e : Char} (he : e ∈ k.normal) : e = ' ' ∨ e = ',' := by
  unfold normal at he
  rw [List.mem_append, List.mem_cons] at he
  rcases he with hleft | rfl | hright
  · exact .inl (collapse_all_blank k.isBlank_left e hleft)
  · exact .inr rfl
  · exact .inl (collapse_all_blank k.isBlank_right e hright)

theorem not_word_of_mem {e : Char} (he : e ∈ k.normal) : isWordChar e = false := by
  rcases k.mem_normal he with rfl | rfl <;> decide

theorem normal_ne_nil : k.normal ≠ [] := List.append_ne_nil_of_right_ne_nil _ (List.cons_ne_nil _ _)

theorem head?_normal (y : List Char) : (k.normal ++ y).head?.any isWordChar = false := by
  obtain ⟨e, more, hcons⟩ := List.exists_cons_of_ne_nil k.normal_ne_nil
  have he := k.not_word_of_mem (show e ∈ k.normal from hcons ▸ List.mem_cons_self)
  rw [hcons]
  exact he

theorem getLast?_normal (x : List Char) (before : Option Char) :
    ((x ++ k.normal).getLast?.or before).any isWordChar = false := by
  rw [List.getLast?_append, List.getLast?_eq_some_getLast k.normal_ne_nil]
  exact k.not_word_of_mem (List.getLast_mem k.normal_ne_nil)

theorem closes_normal (y : List Char) : Closes (k.normal ++ y) := by
  refine .inr ⟨collapse k.left, collapse k.right ++ y, ?_, ?_⟩
  · rw [List.all_eq_true]
    intro e he
    rw [collapse_all_blank k.isBlank_left e he]
    decide
  · simp only [normal, List.append_assoc, List.cons_append]

end Comma

/-- The match at a clause. -/
def NewColumn.found (c : NewColumn) : Match := ⟨c.opening.length, upper c.name⟩

/-- **The clauses of a statement are found one by one.** -/
theorem go_capitalised (c : NewColumn) (others : List (Comma × NewColumn)) {before : Option Char}
    (hbefore : before.any isWordChar = false) :
    findAll.go addColumnPattern 0 before (capitalised c others)
      = c.found :: others.map fun other => other.2.found := by
  have hne : ∀ c : NewColumn, c.opening ≠ [] := fun _ => List.cons_ne_nil _ _
  -- each clause is found at its opening, and up to the next one there is no other
  induction others generalizing c before with
  | nil =>
    have hclosing : ∀ e ∈ ([] : List Char), e ≠ 'A' := nofun
    have hmatch : addColumnPattern.matchAt ⟨before, c.opening ++ ' ' :: (c.capitalType ++ [])⟩
        = some c.found := c.matchAt_opening rfl hbefore
    have htype : findAll.go addColumnPattern 0 (c.opening.getLast?.or before)
          (' ' :: (c.capitalType ++ []) ++ [])
        = findAll.go addColumnPattern 0
            ((' ' :: (c.capitalType ++ [])).getLast?.or (c.opening.getLast?.or before)) [] :=
      go_type c hclosing (.inl rfl)
    rw [List.append_nil] at hmatch
    rw [List.append_nil, List.append_nil] at htype
    rw [capitalised, go_take (hne c) rfl hmatch, htype]
    rfl
  | cons other rest ih =>
    obtain ⟨comma, next⟩ := other
    have hmatch := c.matchAt_opening (comma.head?_normal (capitalised next rest)) hbefore
    rw [← List.append_assoc, ← List.cons_append] at hmatch
    have hclosing : ∀ e ∈ comma.normal, e ≠ 'A' := by
      intro e he
      rcases comma.mem_normal he with rfl | rfl <;> decide
    rw [capitalised, go_take (hne c) rfl hmatch,
      go_type c hclosing (comma.closes_normal (capitalised next rest)), ← List.cons_append,
      ih next (comma.getLast?_normal (' ' :: c.capitalType) _)]
    rfl

/-! ## §6. The statement -/

/-- A statement `ALTER TABLE target` with ADD COLUMN clauses. -/
structure Alteration where
  words : Phrase ["ALTER", "TABLE"]
  target : Target
  gap : Gap
  first : NewColumn
  others : List (Comma × NewColumn)

namespace Alteration

variable (m : Alteration)

/-- The statement as it is written. -/
def text : List Char :=
  m.words.text ++ m.target.text ++ m.gap.text ++ written m.first m.others

/-- Its clauses, in order. -/
def clauses : List NewColumn := m.first :: m.others.map Prod.snd

/-- The statement in capitals with single blanks. -/
theorem normalise_text : normalise m.text = spaced ["ALTER", "TABLE"] ++
    (m.target.capitals ++ ' ' :: capitalised m.first m.others) := by
  have hclauses := head?_written m.first m.others
  have htarget := head?_solid m.target.solid_capitals m.target.capitals_ne_nil
  have hcollapse : collapse (upper m.text) = spaced ["ALTER", "TABLE"] ++
      (m.target.capitals ++ ' ' :: capitalised m.first m.others) := by
    unfold text
    simp only [upper_append, upper_gap, m.target.upper_text, List.append_assoc]
    rw [collapse_phrase (by decide) (htarget _), collapse_word_gap m.target.solid_capitals m.gap
      hclauses, collapse_written]
  have hlast : (upper m.text).getLast?.any isBlank = false := by
    have hend := List.getLast?_eq_some_getLast (upper_ne_nil (written_ne_nil m.first m.others))
    have hwritten := getLast?_written m.first m.others
    rw [hend] at hwritten
    unfold text
    rw [upper_append, List.getLast?_append, hend]
    exact hwritten
  rw [normalise, trim_eq_self ?_ (getLast?_collapse hlast), hcollapse]
  rw [hcollapse]
  exact head?_spaced (by decide) (htarget _)

end Alteration

/-- A clause begins with no word that does not end as ADD does, nor in front of another word than
    COLUMN. -/
theorem go_word {word rest : List Char} {before : Option Char}
    (hword : ∀ c ∈ word, isBlank c = false) (hrest : rest.head?.any isBlank = false)
    (h : word.getLast? ≠ some 'D' ∨ rest.head? ≠ some 'C') :
    findAll.go addColumnPattern 0 before (word ++ ' ' :: rest)
      = findAll.go addColumnPattern 0 (some ' ') rest := by
  have hskip : findAll.go addColumnPattern 0 before (word ++ [' '] ++ rest)
      = findAll.go addColumnPattern 0 ((word ++ [' ']).getLast?.or before) rest := by
    refine go_skip fun x y hxy hy => matchAt_eq_none fun hopens => ?_
    obtain ⟨-, gap₁, gap₂, d, more, -, hahead⟩ := hopens
    obtain rfl | ⟨z, e, rfl⟩ := List.eq_nil_or_concat y
    · exact hy rfl
    rw [List.concat_eq_append, ← List.append_assoc] at hxy
    obtain ⟨rfl, hblank⟩ := List.append_inj' hxy rfl
    obtain rfl : ' ' = e := (List.cons.inj hblank).1
    have hfront : z ++ ' ' :: rest
        = "ADD".toList ++ (gap₁.text ++ ("COLUMN".toList ++ (gap₂.text ++ d :: more))) := by
      rw [← hahead, List.concat_eq_append, List.append_assoc]
      rfl
    obtain ⟨rfl, rfl⟩ := word_gap_once hfront (fun c hc => hword c (List.mem_append_right _ hc))
      (forall_of_all (by decide)) hrest
    rcases h with hlast | hnext
    · rw [List.getLast?_append] at hlast
      exact hlast rfl
    · exact hnext rfl
  rw [List.append_assoc, List.getLast?_concat] at hskip
  exact hskip

/-- The target of an ALTER TABLE is read where no EXISTS stands behind it. -/
theorem capture?_alter {t : Target} {rest : List Char} (hrest : rest.head?.any isBlank = false)
    (hnext : rest.head? ≠ some 'E') : alterTablePattern.capture?
      (spaced ["ALTER", "TABLE"] ++ (t.capitals ++ ' ' :: rest)) = some t.capitals := by
  have hbehind := head?_solid t.solid_capitals t.capitals_ne_nil (' ' :: rest)
  have hend : (' ' :: rest).head?.any isTargetChar = false :=
    show isTargetChar ' ' = false by decide
  -- what follows the name begins with no E, so it is not EXISTS
  have hunguarded : ∀ q, ¬ (phrase ["IF", "EXISTS"]).Spans
      ⟨some ' ', t.capitals ++ ' ' :: rest⟩ q := by
    intro q hspans
    obtain ⟨-, r, hr, hexists⟩ := spans_phrase_apart hspans (forall_of_all (by decide)) rfl
      t.solid_capitals hrest
    obtain ⟨_, _, hahead, -⟩ := spans_phrase hexists
    rw [← hr, hahead] at hnext
    exact hnext rfl
  unfold alterTablePattern
  rw [capture?_front, matchAt, step_all_phrase (by decide) hbehind, step_all_optional hunguarded,
    t.step_named hend rfl]
  rfl

/-- **What is told of the clauses**: of each, in order, whether the column is among those that are
    looked up. -/
theorem predictStatement_alteration (s : Snapshot) (m : Alteration)
    (hs : ∃ table ∈ s.tables.names, m.target.Names table) :
    predictStatement s m.text = .alterTable (String.ofList m.target.capitals) true ::
      m.clauses.map fun c => .addColumn (String.ofList (upper c.name))
        (String.ofList m.target.capitals)
        ((s.capitalColumns m.target.capitals).contains (upper c.name)) := by
  have hthere := (m.target.hasCapitals_iff s).2 hs
  have hletter : (capitalised m.first m.others).head? = some 'A' := by
    cases m.others <;> rfl
  have hclauses : (capitalised m.first m.others).head?.any isBlank = false := by
    rw [hletter]
    decide
  have htarget := head?_solid m.target.solid_capitals m.target.capitals_ne_nil
  have hcapture := @capture?_alter m.target _ hclauses (by rw [hletter]; decide)
  have hheader : ∀ behind, spaced ["ALTER", "TABLE"] ++ behind
      = "ALTER".toList ++ ' ' :: ("TABLE".toList ++ ' ' :: behind) := fun behind => by
    rw [spaced_append, spaced_append]
    rfl
  -- the header holds no clause, and behind it there is one for each of the columns
  have hfound : addColumnPattern.findAll (normalise m.text)
      = m.clauses.map NewColumn.found := by
    rw [m.normalise_text, findAll, hheader,
      go_word (forall_of_all (by decide)) (head?_solid (forall_of_all (by decide)) (by decide) _)
        (.inl (by decide)),
      go_word (forall_of_all (by decide)) (htarget _) (.inl (by decide)),
      go_word m.target.solid_capitals hclauses (.inr (by rw [hletter]; decide)),
      go_capitalised _ _ (by decide), Alteration.clauses, List.map_cons, List.map_map]
    rfl
  rw [m.normalise_text] at hfound
  unfold predictStatement
  rw [m.normalise_text, predictNormal_alter s hcapture, hthere, if_pos rfl]
  unfold predictColumns
  rw [hfound, List.map_map]
  rfl

/-! ## §7. The columns that are looked up -/

/-- One of these tables has the column, in whatever case. -/
def Snapshot.HasColumn (s : Snapshot) (isTable : String → Prop) (name : List Char) : Prop :=
  ∃ column ∈ s.columns.values, isTable column.table ∧ upper column.column.toList = upper name

/-- The name under which the columns are looked up. -/
def Target.small (t : Target) : String := String.ofList (lower (upper t.name))

theorem contains_capitalColumns (s : Snapshot) (t : Target) (name : List Char) :
    (s.capitalColumns t.capitals).contains (upper name) = true ↔
      s.HasColumn (· = t.small) name := by
  unfold Snapshot.capitalColumns Snapshot.tableColumns Snapshot.HasColumn Target.small
  rw [t.unqualified_capitals, List.contains_iff_mem, List.mem_map]
  simp only [List.mem_filter, beq_iff_eq, and_assoc]

/-- The table of a column is one of the tables. -/
theorem mem_names_of_mem_values {schema capturedAt : String} {rows : List Column} {column : Column}
    (h : column ∈ (Snapshot.ofRows schema capturedAt rows).columns.values) :
    column.table ∈ (Snapshot.ofRows schema capturedAt rows).tables.names := by
  obtain ⟨⟨key, value⟩, hentry, rfl⟩ := List.mem_map.1 h
  have hrow : value ∈ rows := by
    rw [Collection.SortedMap.mem_entries, Snapshot.get?_columns_ofRows] at hentry
    exact List.mem_reverse.1 (List.mem_of_find?_eq_some hentry)
  rw [Collection.SortedMap.mem_names]
  have htables := Snapshot.contains_tables_ofRows schema capturedAt rows value.table
  unfold Snapshot.hasTable at htables
  rw [htables, List.contains_iff_mem]
  exact List.mem_map_of_mem hrow

/-- **Which columns are told to be there already**: those of the tables whose name is that of the
    target in small letters.  So where the target names one table only, and its name in small
    letters is the same name, a column of it is found if and only if the table is spelled in small
    letters. -/
theorem columns_looked_up (schema capturedAt : String) (rows : List Column) (m : Alteration)
    {script : List Char} (hscript : fragments script = [m.text]) :
    let s := Snapshot.ofRows schema capturedAt rows
    (∃ table ∈ s.tables.names, m.target.Names table) →
    ∃ told : NewColumn → Bool,
      predict s script = .alterTable (String.ofList m.target.capitals) true ::
        m.clauses.map (fun c => .addColumn (String.ofList (upper c.name))
          (String.ofList m.target.capitals) (told c)) ∧
      (∀ c, told c = true ↔ s.HasColumn (· = m.target.small) c.name) ∧
      ∀ table, (∀ n ∈ s.tables.names, m.target.Names n ↔ n = table) →
        m.target.Names m.target.small →
        ∀ c, told c = true ↔ table = m.target.small ∧ s.HasColumn m.target.Names c.name := by
  intro s hs
  have hpredict : predict s script = predictStatement s m.text := by
    unfold predict
    rw [hscript, List.flatMap_singleton]
  refine ⟨fun c => (s.capitalColumns m.target.capitals).contains (upper c.name),
    hpredict.trans (predictStatement_alteration s m hs), fun c => contains_capitalColumns s _ _,
    fun table hsole hsmall c => ?_⟩
  rw [contains_capitalColumns]
  constructor
  · rintro ⟨column, hmem, htable, hname⟩
    have hthere := mem_names_of_mem_values hmem
    have hnames : m.target.Names column.table := by rwa [htable]
    have hsame := (hsole _ hthere).1 hnames
    exact ⟨hsame.symm.trans htable, column, hmem, hnames, hname⟩
  · rintro ⟨rfl, column, hmem, hnames, hname⟩
    exact ⟨column, hmem, (hsole _ (mem_names_of_mem_values hmem)).1 hnames, hname⟩

/-- A column for an address. -/
def email : NewColumn where
  words := .word ⟨"add".toList, by decide⟩ oneSpace
    (.word ⟨"Column".toList, by decide⟩ lineBreak .empty)
  guard := some (.word ⟨"if".toList, by decide⟩ oneSpace
    (.word ⟨"not".toList, by decide⟩ oneSpace
      (.word ⟨"exists".toList, by decide⟩ oneSpace .empty)))
  name := "email".toList
  isWord_name := by decide
  name_ne_nil := by decide
  gap := oneSpace
  type := "varchar (80)".toList
  type_ne_nil := by decide
  head_type := by decide
  last_type := by decide
  sole_type := by decide +kernel
  opens_type := by decide +kernel

/-- A statement that adds the column to a table whose name has a capital. -/
def withEmail : Alteration where
  words := .word ⟨"ALTER".toList, by decide⟩ oneSpace
    (.word ⟨"TABLE".toList, by decide⟩ oneSpace .empty)
  target := {
    schema := some "public".toList
    name := "Customers".toList
    isWord_schema := fun _ h => Option.some.inj h ▸ by decide
    isWord_name := by decide
    name_ne_nil := by decide
    isOther := nofun }
  gap := oneSpace
  first := email
  others := []

/-- The table has the column, and yet it is told that it will be added. -/
theorem column_overlooked :
    let script := "ALTER TABLE public.Customers add Column\nif not exists email varchar (80)".toList
    let s := Snapshot.ofRows "public" "" [⟨"Customers", "email", "text", true, ""⟩]
    fragments script = [withEmail.text] ∧
      (∃ table ∈ s.tables.names, withEmail.target.Names table) ∧
      s.HasColumn withEmail.target.Names email.name ∧
      predict s script = [.alterTable "PUBLIC.CUSTOMERS" true,
        .addColumn "EMAIL" "PUBLIC.CUSTOMERS" false] := by
  intro script s
  have hscript : fragments script = [withEmail.text] := by decide +kernel
  have hthere : ∃ table ∈ s.tables.names, withEmail.target.Names table := by decide +kernel
  have hsole : ∀ n ∈ s.tables.names, withEmail.target.Names n ↔ n = "Customers" := by
    decide +kernel
  have hsmall : withEmail.target.Names withEmail.target.small := by decide +kernel
  have hcolumn : s.HasColumn withEmail.target.Names email.name :=
    ⟨⟨"Customers", "email", "text", true, ""⟩, by decide +kernel, by decide +kernel,
      by decide +kernel⟩
  obtain ⟨told, hpredict, -, htold⟩ :=
    columns_looked_up "public" "" [⟨"Customers", "email", "text", true, ""⟩] withEmail hscript hthere
  have hfalse : told email = false := by
    rw [← Bool.not_eq_true, htold "Customers" hsole hsmall email]
    exact fun h => absurd h.1 (by decide +kernel)
  refine ⟨hscript, hthere, hcolumn, hpredict.trans ?_⟩
  have hcolumnName : String.ofList (upper email.name) = "EMAIL" := by decide +kernel
  have htable : String.ofList withEmail.target.capitals = "PUBLIC.CUSTOMERS" := by decide +kernel
  show _ :: [Prediction.addColumn (String.ofList (upper email.name)) _ (told email)] = _
  rw [hfalse, hcolumnName, htable]

end ScriptGate.Schema
