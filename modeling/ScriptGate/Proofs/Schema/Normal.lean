/-
  ScriptGate.Proofs.Schema.Normal — statements in capitals with single blanks.

  Predictions are made from a statement in capitals in which one blank stands for every run of
  blanks.  This form is taken part by part, as long as no run of blanks goes on from one part to the
  next, and it has the words of the statement.  Where its first words are known, phrases and the
  target are read off them.
  Main statements:
    - `collapse_append`     — single blanks are made part by part;
    - `words_normalise`     — the words are those of the statement in capitals;
    - `collapse_phrase`     — a phrase in capitals with single blanks;
    - `step_phrase`         — a phrase is read to its end;
    - `spans_phrase_apart`  — which words a phrase is matched by;
    - `step_target`         — the target is read to its end.
-/
import ScriptGate.Proofs.Statement.CommonTable
import ScriptGate.Proofs.Text.Reading
import ScriptGate.Schema.Prediction

namespace ScriptGate.Schema

open ScriptGate.Statement ScriptGate.Text ScriptGate.Text.Pattern

/-! ## §1. Single blanks -/

theorem go_of_head {x : List Char} (h : x.head?.any isBlank = false) (blank : Bool) :
    collapse.go blank x = collapse x := by
  cases x with
  | nil => rfl
  | cons c rest =>
    have hc : ¬ isBlank c = true := Bool.eq_false_iff.1 h
    unfold collapse
    rw [collapse.go, collapse.go, if_neg hc, if_neg hc]

theorem go_append (x y : List Char) (blank : Bool) :
    collapse.go blank (x ++ y)
      = collapse.go blank x ++ collapse.go (x.getLast?.elim blank isBlank) y := by
  induction x generalizing blank with
  | nil => rfl
  | cons c rest ih =>
    have hlast : (c :: rest).getLast?.elim blank isBlank
        = rest.getLast?.elim (isBlank c) isBlank := by
      rw [List.getLast?_cons]
      cases rest.getLast? <;> rfl
    rw [hlast, List.cons_append, collapse.go, collapse.go]
    by_cases hc : isBlank c = true
    · rw [if_pos hc, if_pos hc, hc]
      cases blank with
      | false => exact congrArg (' ' :: ·) (ih true)
      | true => exact ih true
    · rw [if_neg hc, if_neg hc, Bool.eq_false_iff.2 hc]
      exact congrArg (c :: ·) (ih false)

/-- **Single blanks are made part by part**, as long as no run of blanks goes on from one part to
    the next. -/
theorem collapse_append {x y : List Char}
    (h : x.getLast?.any isBlank = false ∨ y.head?.any isBlank = false) :
    collapse (x ++ y) = collapse x ++ collapse y := by
  have hsplit : collapse (x ++ y) = collapse x ++ collapse.go (x.getLast?.elim false isBlank) y :=
    go_append x y false
  rcases h with hx | hy
  · have hlast : x.getLast?.elim false isBlank = false := by
      cases hlast? : x.getLast? with
      | none => rfl
      | some c =>
        rw [hlast?] at hx
        exact hx
    rw [hsplit, hlast]
    rfl
  · rw [hsplit, go_of_head hy]

/-- Where there are no blanks nothing changes. -/
theorem collapse_solid {x : List Char} (h : ∀ c ∈ x, isBlank c = false) : collapse x = x := by
  induction x with
  | nil => rfl
  | cons c rest ih =>
    obtain ⟨hc, hrest⟩ := List.forall_mem_cons.1 h
    have hstep : collapse (c :: rest) = c :: collapse rest := by
      unfold collapse
      rw [collapse.go, if_neg (Bool.eq_false_iff.1 hc)]
    rw [hstep, ih hrest]

theorem isBlank_gap (g : Gap) : ∀ c ∈ g.text, isBlank c = true :=
  List.forall_mem_cons.2 ⟨g.isBlank_first, List.all_eq_true.1 g.isBlank_more⟩

theorem collapse_blanks {blanks : List Char} (h : ∀ c ∈ blanks, isBlank c = true) :
    collapse.go true blanks = [] := by
  induction blanks with
  | nil => rfl
  | cons c rest ih =>
    obtain ⟨hc, hrest⟩ := List.forall_mem_cons.1 h
    rw [collapse.go, if_pos hc, if_pos rfl, ih hrest]

/-- One blank stands for a gap. -/
theorem collapse_gap (g : Gap) : collapse g.text = [' '] := by
  unfold collapse Gap.text
  rw [collapse.go, if_pos g.isBlank_first, if_neg Bool.false_ne_true,
    collapse_blanks (List.all_eq_true.1 g.isBlank_more)]

section

variable {word : List Char} (hword : ∀ c ∈ word, isBlank c = false)
include hword

theorem head?_solid (hne : word ≠ []) (y : List Char) :
    (word ++ y).head?.any isBlank = false := by
  obtain ⟨c, more, rfl⟩ := List.exists_cons_of_ne_nil hne
  exact hword c List.mem_cons_self

theorem getLast?_solid (hne : word ≠ []) (x : List Char) :
    (x ++ word).getLast?.any isBlank = false := by
  rw [List.getLast?_append, List.getLast?_eq_some_getLast hne]
  exact hword _ (List.getLast_mem hne)

/-- A word with a gap behind it. -/
theorem collapse_word_gap (g : Gap) {y : List Char} (hy : y.head?.any isBlank = false) :
    collapse (word ++ (g.text ++ y)) = word ++ ' ' :: collapse y := by
  have hlast : word.getLast?.any isBlank = false := by
    cases h : word.getLast? with
    | none => rfl
    | some c => exact hword c (List.mem_of_getLast? h)
  rw [collapse_append (.inl hlast), collapse_append (.inr hy), collapse_solid hword, collapse_gap]
  rfl

end

theorem collapse_ne_nil {x : List Char} (h : x ≠ []) : collapse x ≠ [] := by
  obtain ⟨c, rest, rfl⟩ := List.exists_cons_of_ne_nil h
  unfold collapse
  rw [collapse.go]
  by_cases hc : isBlank c = true
  · rw [if_pos hc, if_neg Bool.false_ne_true]
    exact List.cons_ne_nil _ _
  · rw [if_neg hc]
    exact List.cons_ne_nil _ _

/-- The first character is that of the text, a blank for a blank. -/
theorem head?_collapse {p : Char → Bool} (hp : ∀ c, isBlank c = true → p c = p ' ')
    (x : List Char) : (collapse x).head?.any p = x.head?.any p := by
  cases x with
  | nil => rfl
  | cons c rest =>
    unfold collapse
    rw [collapse.go]
    by_cases hc : isBlank c = true
    · rw [if_pos hc, if_neg Bool.false_ne_true]
      exact (hp c hc).symm
    · rw [if_neg hc]
      rfl

/-- The last character is that of the text, a blank for a blank. -/
theorem getLast?_collapse {x : List Char} (h : x.getLast?.any isBlank = false) :
    (collapse x).getLast?.any isBlank = false := by
  rcases List.eq_nil_or_concat x with rfl | ⟨front, c, rfl⟩
  · rfl
  · rw [List.concat_eq_append] at h ⊢
    rw [List.getLast?_concat] at h
    have hc : collapse [c] = [c] := collapse_solid (List.forall_mem_singleton.2 h)
    rw [collapse_append (.inr (show [c].head?.any isBlank = false from h)), hc,
      List.getLast?_concat]
    exact h

/-- What is cut off at the end does not show in front. -/
theorem head?_any_trimEnd {p : Char → Bool} {x : List Char} (h : x.head?.any p = false) :
    (trimEnd x).head?.any p = false := by
  have hnot : ∀ o : Option Char, o.all (fun c => !p c) = !o.any p := by
    intro o
    cases o <;> rfl
  have hnone : x.head?.all (fun c => !p c) = true := by
    rw [hnot, h]
    rfl
  have hall := head?_trimEnd hnone
  rwa [hnot, Bool.not_eq_true'] at hall

/-! ## §2. Words -/

theorem words_go (text : List Char) :
    (∀ front, words (front ++ collapse.go false text) = words (front ++ text)) ∧
      words (collapse.go true text) = words text := by
  induction text with
  | nil => exact ⟨fun _ => rfl, rfl⟩
  | cons c rest ih =>
    obtain ⟨hfalse, htrue⟩ := ih
    by_cases hc : isBlank c = true
    · have hbreak := isWordChar_of_isBlank hc
      refine ⟨fun front => ?_, ?_⟩
      · rw [collapse.go, if_pos hc, if_neg Bool.false_ne_true,
          words_append_break (by decide), htrue, words_append_break hbreak]
      · rw [collapse.go, if_pos hc, if_pos rfl, htrue, words_cons_break hbreak]
    · -- the character is one more in front
      refine ⟨fun front => ?_, ?_⟩
      · rw [collapse.go, if_neg hc, List.append_cons, hfalse, ← List.append_cons]
      · rw [collapse.go, if_neg hc]
        exact hfalse [c]

/-- One blank for every run of blanks changes no word. -/
theorem words_collapse (text : List Char) : words (collapse text) = words text :=
  (words_go text).1 []

/-- **The words are those of the statement in capitals.** -/
theorem words_normalise (statement : List Char) :
    words (normalise statement) = words (upper statement) := by
  rw [normalise, words_trim, words_collapse]

/-- What a text begins with up to its first blank stays. -/
theorem takeWhile_collapse {p : Char → Bool} (hp : ∀ c, isBlank c = true → p c = false)
    (text : List Char) : (collapse text).takeWhile p = text.takeWhile p := by
  unfold collapse
  induction text with
  | nil => rfl
  | cons c rest ih =>
    rw [collapse.go]
    by_cases hc : isBlank c = true
    · rw [if_pos hc, if_neg Bool.false_ne_true,
        List.takeWhile_cons_of_neg (Bool.eq_false_iff.1 (hp ' ' (by decide))),
        List.takeWhile_cons_of_neg (Bool.eq_false_iff.1 (hp c hc))]
    · rw [if_neg hc, List.takeWhile_cons, List.takeWhile_cons, ih]

/-! ## §3. Capitals -/

theorem upper_gap (g : Gap) : upper g.text = g.text :=
  upper_of_forall fun c hc => upperOf_of_isBlank (isBlank_gap g c hc)

/-- Word characters are no blanks. -/
theorem solid_of_word {text : List Char} (h : text.all isWordChar = true) :
    ∀ c ∈ text, isBlank c = false := by
  intro c hc
  rw [← Bool.not_eq_true]
  intro hblank
  have hword := List.all_eq_true.1 h c hc
  rw [isWordChar_of_isBlank hblank] at hword
  exact Bool.noConfusion hword

/-! ## §4. Phrases -/

/-- Words with a gap behind each, whatever the case of their letters. -/
inductive Phrase : List String → Type where
  | empty : Phrase []
  | word {w : String} {ws : List String} (spelling : Spelling w) (gap : Gap) (rest : Phrase ws) :
      Phrase (w :: ws)

/-- The phrase as it is written. -/
def Phrase.text {ws : List String} : Phrase ws → List Char
  | empty => []
  | word spelling gap rest => spelling.text ++ (gap.text ++ rest.text)

theorem isBlank_space : isBlank ' ' = true := by decide

theorem isBlank_newline : isBlank '\n' = true := by decide

/-- A gap of one blank. -/
def oneSpace : Gap := ⟨' ', [], isBlank_space, List.all_nil⟩

/-- A gap of one line break. -/
def lineBreak : Gap := ⟨'\n', [], isBlank_newline, List.all_nil⟩

/-- Words with one blank behind each. -/
def spaced (ws : List String) : List Char := ws.flatMap fun w => w.toList ++ [' ']

/-- Is no word empty, and is there no blank in one? -/
def areSolid (ws : List String) : Bool :=
  ws.all fun w => !w.toList.isEmpty && w.toList.all fun c => !isBlank c

theorem areSolid_cons {w : String} {ws : List String} : areSolid (w :: ws) = true ↔
    (w.toList ≠ [] ∧ ∀ c ∈ w.toList, isBlank c = false) ∧ areSolid ws = true := by
  simp [areSolid]

theorem spaced_append (w : String) (ws : List String) (rest : List Char) :
    spaced (w :: ws) ++ rest = w.toList ++ ' ' :: (spaced ws ++ rest) := by
  simp [spaced]

/-- A phrase begins with its first word. -/
theorem head?_first {w : String} {ws : List String} (hws : areSolid (w :: ws) = true)
    (phrase : Phrase (w :: ws)) (rest : List Char) :
    (upper (phrase.text ++ rest)).head?.any isBlank = false := by
  cases phrase with
  | word spelling gap phrase =>
    obtain ⟨⟨hne, hw⟩, -⟩ := areSolid_cons.1 hws
    rw [Phrase.text, List.append_assoc, upper_append, spelling.upper_text]
    exact head?_solid hw hne _

section

variable {ws : List String} (hws : areSolid ws = true) {rest : List Char}
  (hrest : rest.head?.any isBlank = false)
include hws hrest

theorem head?_spaced : (spaced ws ++ rest).head?.any isBlank = false := by
  cases ws with
  | nil => exact hrest
  | cons w ws =>
    obtain ⟨⟨hne, hw⟩, -⟩ := areSolid_cons.1 hws
    rw [spaced_append]
    exact head?_solid hw hne _

theorem head?_phrase (phrase : Phrase ws) :
    (upper phrase.text ++ rest).head?.any isBlank = false := by
  cases phrase with
  | empty => exact hrest
  | word spelling gap phrase =>
    obtain ⟨⟨hne, hw⟩, -⟩ := areSolid_cons.1 hws
    rw [Phrase.text, upper_append, spelling.upper_text, List.append_assoc]
    exact head?_solid hw hne _

/-- **A phrase in capitals with single blanks.** -/
theorem collapse_phrase (phrase : Phrase ws) :
    collapse (upper phrase.text ++ rest) = spaced ws ++ collapse rest := by
  induction phrase with
  | empty => rfl
  | word spelling gap phrase ih =>
    obtain ⟨⟨_, hw⟩, hmore⟩ := areSolid_cons.1 hws
    rw [Phrase.text, upper_append, upper_append, spelling.upper_text, upper_gap, List.append_assoc,
      List.append_assoc, collapse_word_gap hw gap (head?_phrase hmore hrest phrase), ih hmore,
      spaced_append]

end

section

variable {α : Type} {before : Option Char} {rest seen : List Char} {w : String} {ws : List String}
  (hws : areSolid (w :: ws) = true) (hrest : rest.head?.any isBlank = false)
include hws hrest

/-- **A phrase is read to its end.** -/
theorem step_phrase (k : Place → List Char → Option α) :
    (phrase (w :: ws)).step ⟨before, spaced (w :: ws) ++ rest⟩ seen k
      = k ⟨some ' ', rest⟩ seen := by
  induction ws generalizing w before with
  | nil =>
    show (text w).step ⟨before, _⟩ seen (fun p seen => blanks.step p seen k) = _
    rw [spaced_append, step_text]
    exact step_blanks hrest k
  | cons v vs ih =>
    obtain ⟨-, hmore⟩ := areSolid_cons.1 hws
    show (text w).step ⟨before, _⟩ seen (fun p seen =>
      blanks.step p seen fun p seen => (phrase (v :: vs)).step p seen k) = _
    rw [spaced_append, step_text, step_blanks (head?_spaced hmore hrest), ih hmore]

/-- In front of other parts too. -/
theorem step_all_phrase (parts : List Pattern) (k : Place → List Char → Option α) :
    (all (phrase (w :: ws) :: parts)).step ⟨before, spaced (w :: ws) ++ rest⟩ seen k
      = (all parts).step ⟨some ' ', rest⟩ seen k :=
  step_phrase hws hrest fun p seen => (all parts).step p seen k

end

/-- A phrase begins with its first word and a gap. -/
theorem spans_phrase {w : String} {ws : List String} {p q : Place}
    (h : (phrase (w :: ws)).Spans p q) : ∃ (gap : Gap) (r : Place),
      p.ahead = w.toList ++ (gap.text ++ r.ahead) ∧ (phrase ws).Spans r q := by
  obtain ⟨r₁, htext, r, ⟨taken, hall, hleast, hpassed⟩, hrest⟩ := h
  obtain ⟨blank, blanks, rfl⟩ := List.exists_cons_of_length_pos hleast
  rw [List.all_cons, Bool.and_eq_true] at hall
  refine ⟨⟨blank, blanks, hall.1, hall.2⟩, r, ?_, hrest⟩
  rw [(spans_text.1 htext).ahead, hpassed.ahead]
  rfl

/-- A phrase matches its first word with a gap behind it if the rest of it matches there. -/
theorem spans_phrase_of {w : String} (ws : List String) {p : Place} {gap : Gap} {rest : List Char}
    (h : p.ahead = w.toList ++ (gap.text ++ rest)) :
    ∃ r : Place, r.ahead = rest ∧ ∀ q, (phrase ws).Spans r q → (phrase (w :: ws)).Spans p q := by
  obtain ⟨before, ahead⟩ := p
  subst h
  exact ⟨⟨gap.text.getLast?.or (w.toList.getLast?.or before), rest⟩, rfl, fun q hq =>
    ⟨⟨w.toList.getLast?.or before, gap.text ++ rest⟩, spans_text.2 ⟨rfl, rfl⟩, _,
      ⟨gap.text, List.all_eq_true.2 (isBlank_gap gap), Nat.succ_le_succ (Nat.zero_le _), ⟨rfl, rfl⟩⟩,
      hq⟩⟩

/-- Where one blank stands behind a word, a text begins with that word and a gap only. -/
theorem word_gap_once {word word' rest behind : List Char} {gap : Gap}
    (h : word ++ ' ' :: rest = word' ++ (gap.text ++ behind))
    (hword : ∀ c ∈ word, isBlank c = false) (hword' : ∀ c ∈ word', isBlank c = false)
    (hrest : rest.head?.any isBlank = false) : word = word' ∧ rest = behind := by
  have hsolid : ∀ {t : List Char}, (∀ c ∈ t, isBlank c = false) →
      ∀ c ∈ t, (!isBlank c) = true := by
    intro t ht c hc
    rw [ht c hc]
    rfl
  have hbreak : (!isBlank gap.first) = false := by
    rw [gap.isBlank_first]
    rfl
  obtain ⟨hsame, hbehind⟩ := divided_once h (hsolid hword) (hsolid hword')
    (show (!isBlank ' ') = false by decide) hbreak
  obtain ⟨-, htail⟩ := List.cons.inj hbehind
  refine ⟨hsame, ?_⟩
  -- a second blank of the gap would stand in front of the rest
  cases hmore : gap.more with
  | nil => rw [htail, hmore]; rfl
  | cons b more =>
    have hb := isBlank_gap gap b (List.mem_cons_of_mem _ (hmore ▸ List.mem_cons_self))
    rw [htail, hmore] at hrest
    exact absurd hb (Bool.eq_false_iff.1 hrest)

/-- **Which words a phrase is matched by**: where one blank stands behind a word, only by that
    word. -/
theorem spans_phrase_apart {w : String} {ws : List String} {p q : Place}
    (h : (phrase (w :: ws)).Spans p q) (hw : ∀ c ∈ w.toList, isBlank c = false)
    {word rest : List Char} (hahead : p.ahead = word ++ ' ' :: rest)
    (hword : ∀ c ∈ word, isBlank c = false) (hrest : rest.head?.any isBlank = false) :
    word = w.toList ∧ ∃ r : Place, r.ahead = rest ∧ (phrase ws).Spans r q := by
  obtain ⟨gap, r, hp, hspans⟩ := spans_phrase h
  obtain ⟨hsame, hbehind⟩ := word_gap_once (hahead.symm.trans hp) hword hw hrest
  exact ⟨hsame, r, hbehind.symm, hspans⟩

/-! ## §5. Forms -/

/-- A text that does not have the first word of a form does not have the form. -/
theorem capture?_eq_none {parts : List Pattern} {cs : List Char}
    (h : (all parts).matchAt ⟨none, cs⟩ = none) : (all (front :: parts)).capture? cs = none := by
  rw [capture?_front, h]
  rfl

section

variable (s : Snapshot) {ws : List String} {rest target : List Char}

theorem predictNormal_alter
    (h : alterTablePattern.capture? (spaced ("ALTER" :: ws) ++ rest) = some target) :
    predictNormal s (spaced ("ALTER" :: ws) ++ rest) =
      .alterTable (String.ofList target) (s.hasCapitals target) ::
        if s.hasCapitals target then predictColumns s target (spaced ("ALTER" :: ws) ++ rest)
        else [] := by
  rw [spaced_append] at h ⊢
  have hcreate : createTablePattern.capture? ("ALTER".toList ++ ' ' :: (spaced ws ++ rest)) = none :=
    capture?_eq_none rfl
  unfold predictNormal
  rw [hcreate, h]

/-- Statements about rows have none of the forms that are tried before theirs. -/
theorem earlier_forms {verb : String} (hverb : verb = "UPDATE" ∨ verb = "DELETE")
    (rest : List Char) :
    createTablePattern.capture? (verb.toList ++ rest) = none ∧
      alterTablePattern.capture? (verb.toList ++ rest) = none ∧
      insertPattern.capture? (verb.toList ++ rest) = none ∧
      dropTablePattern.capture? (verb.toList ++ rest) = none ∧
      selectPattern.capture? (verb.toList ++ rest) = none := by
  rcases hverb with rfl | rfl
  all_goals exact ⟨capture?_eq_none rfl, capture?_eq_none rfl, capture?_eq_none rfl,
    capture?_eq_none rfl, capture?_eq_none rfl⟩

theorem predictNormal_update
    (h : updatePattern.capture? (spaced ("UPDATE" :: ws) ++ rest) = some target) :
    predictNormal s (spaced ("UPDATE" :: ws) ++ rest) =
      [.update (String.ofList target) (s.hasCapitals target)
        (wherePattern.occurs (spaced ("UPDATE" :: ws) ++ rest))] := by
  rw [spaced_append] at h ⊢
  obtain ⟨hcreate, halter, hinsert, hdrop, hselect⟩ :=
    earlier_forms (.inl rfl) (' ' :: (spaced ws ++ rest))
  unfold predictNormal
  rw [hcreate, halter, hinsert, hdrop, hselect, h]

theorem predictNormal_delete
    (h : deletePattern.capture? (spaced ("DELETE" :: ws) ++ rest) = some target) :
    predictNormal s (spaced ("DELETE" :: ws) ++ rest) =
      [.delete (String.ofList target) (s.hasCapitals target)
        (wherePattern.occurs (spaced ("DELETE" :: ws) ++ rest))] := by
  rw [spaced_append] at h ⊢
  obtain ⟨hcreate, halter, hinsert, hdrop, hselect⟩ :=
    earlier_forms (.inr rfl) (' ' :: (spaced ws ++ rest))
  have hupdate : updatePattern.capture? ("DELETE".toList ++ ' ' :: (spaced ws ++ rest)) = none :=
    capture?_eq_none rfl
  unfold predictNormal
  rw [hcreate, halter, hinsert, hdrop, hselect, hupdate, h]

end

/-! ## §6. Targets -/

/-- A character of a target. -/
def isTargetChar (c : Char) : Bool := isWordChar c || c == '.'

theorem isTargetChar_of_isBlank {c : Char} (h : isBlank c = true) : isTargetChar c = false := by
  rw [isTargetChar, isWordChar_of_isBlank h, Bool.false_or, beq_eq_false_iff_ne]
  rintro rfl
  exact absurd h (by decide)

/-- The table that a statement is about: a name, with its schema perhaps.  Both are word characters
    in capitals, and the whole is not the word ONLY. -/
structure Target where
  schema : Option (List Char)
  name : List Char
  isWord_schema : ∀ s ∈ schema, (upper s).all isWordChar = true
  isWord_name : (upper name).all isWordChar = true
  name_ne_nil : name ≠ []
  isOther : schema = none → upper name ≠ "ONLY".toList

namespace Target

variable (t : Target)

/-- The target as it is written. -/
def text : List Char :=
  match t.schema with
  | none => t.name
  | some s => s ++ '.' :: t.name

/-- The target in capitals. -/
def capitals : List Char := upper t.text

theorem upper_text : upper t.text = t.capitals := rfl

/-- A table that bears the name of the target, in whatever case. -/
def Names (table : String) : Prop := upper table.toList = upper t.name

instance (table : String) : Decidable (t.Names table) := inferInstanceAs (Decidable (_ = _))

theorem capitals_eq : t.capitals =
    match t.schema with
    | none => upper t.name
    | some s => upper s ++ '.' :: upper t.name := by
  unfold capitals text
  cases t.schema with
  | none => rfl
  | some s =>
    dsimp only
    rw [upper_append, upper_cons]
    rfl

theorem capitals_ne_nil : t.capitals ≠ [] := by
  rw [capitals_eq]
  cases t.schema with
  | none => exact upper_ne_nil t.name_ne_nil
  | some s => exact List.append_ne_nil_of_right_ne_nil _ (List.cons_ne_nil _ _)

theorem isTargetChar_capitals : ∀ c ∈ t.capitals, isTargetChar c = true := by
  have hword : ∀ {text : List Char}, text.all isWordChar = true →
      ∀ c ∈ text, isTargetChar c = true := by
    intro text h c hc
    rw [isTargetChar, List.all_eq_true.1 h c hc]
    rfl
  rw [capitals_eq]
  cases hschema : t.schema with
  | none => exact hword t.isWord_name
  | some s =>
    exact List.forall_mem_append.2 ⟨hword (t.isWord_schema s hschema),
      List.forall_mem_cons.2 ⟨by decide, hword t.isWord_name⟩⟩

theorem solid_capitals : ∀ c ∈ t.capitals, isBlank c = false := by
  intro c hc
  rw [← Bool.not_eq_true]
  intro hblank
  have htarget := t.isTargetChar_capitals c hc
  rw [isTargetChar_of_isBlank hblank] at htarget
  exact Bool.noConfusion htarget

/-- The schema in front is passed over where the table is looked for. -/
theorem unqualified_capitals : unqualified t.capitals = upper t.name := by
  have hname : ∀ c ∈ (upper t.name).reverse, (c != '.') = true := by
    intro c hc
    rw [bne_iff_ne]
    rintro rfl
    exact absurd (List.all_eq_true.1 t.isWord_name '.' (List.mem_reverse.1 hc)) (by decide)
  rw [unqualified, capitals_eq]
  cases t.schema with
  | none => rw [takeWhile_all hname, List.reverse_reverse]
  | some s =>
    dsimp only
    rw [List.reverse_append, List.reverse_cons, List.append_assoc, List.singleton_append,
      takeWhile_upto hname (by decide), List.reverse_reverse]

theorem hasCapitals_iff (s : Snapshot) :
    s.hasCapitals t.capitals = true ↔ ∃ table ∈ s.tables.names, t.Names table := by
  rw [Snapshot.hasCapitals, unqualified_capitals, List.any_eq_true]
  exact exists_congr fun table => and_congr_right fun _ => beq_iff_eq

theorem capitals_ne_only : t.capitals ≠ "ONLY".toList := by
  rw [capitals_eq]
  cases hschema : t.schema with
  | none => exact t.isOther hschema
  | some s =>
    intro honly
    have hmem : '.' ∈ "ONLY".toList :=
      honly ▸ List.mem_append_right _ List.mem_cons_self
    exact absurd hmem (by decide)

section

variable {α : Type} {before : Option Char} {rest seen : List Char}

/-- No target is taken for the word ONLY. -/
theorem step_only (hrest : rest.head?.any isTargetChar = false)
    (k : Place → List Char → Option α) :
    (optional (phrase ["ONLY"])).step ⟨before, t.capitals ++ rest⟩ seen k
      = k ⟨before, t.capitals ++ rest⟩ seen := by
  refine step_optional (fun q hspans => ?_) k
  obtain ⟨gap, r, hp, -⟩ := spans_phrase hspans
  exact t.capitals_ne_only (divided_once hp t.isTargetChar_capitals (forall_of_all (by decide))
    hrest (isTargetChar_of_isBlank gap.isBlank_first)).1

/-- **The target is read to its end.** -/
theorem step_target {a : α} (hrest : rest.head?.any isTargetChar = false)
    {k : Place → List Char → Option α}
    (hk : k ⟨t.capitals.getLast?.or before, rest⟩ t.capitals = some a) :
    targetPattern.step ⟨before, t.capitals ++ rest⟩ seen k = some a :=
  step_group_run t.capitals_ne_nil t.isTargetChar_capitals hrest hk

theorem step_named {a : α} {parts : List Pattern} (hrest : rest.head?.any isTargetChar = false)
    {k : Place → List Char → Option α}
    (hk : (all parts).step ⟨t.capitals.getLast?.or before, rest⟩ t.capitals k = some a) :
    (all (optional (phrase ["ONLY"]) :: targetPattern :: parts)).step
      ⟨before, t.capitals ++ rest⟩ seen k = some a :=
  calc (all (optional (phrase ["ONLY"]) :: targetPattern :: parts)).step
        ⟨before, t.capitals ++ rest⟩ seen k
      = targetPattern.step ⟨before, t.capitals ++ rest⟩ seen
          fun p seen => (all parts).step p seen k := t.step_only hrest _
    _ = some a := t.step_target hrest hk

end

end Target

end ScriptGate.Schema
