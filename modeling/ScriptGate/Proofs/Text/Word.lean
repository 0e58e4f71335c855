/-
  ScriptGate.Proofs.Text.Word — the words of a text.

  Words are what stands between the characters that belong to none.  A text falls into its words at
  any such character, so what blanks there are between two words makes no difference, and a search
  for a word finds it if and only if it is one of them.
  Main statements:
    - `words_append_break`  — words split at a character that belongs to none;
    - `mem_words_iff`       — where the words of a text stand in it;
    - `occurs_word_iff`     — a search for a word finds the words of a text.
-/
import ScriptGate.Proofs.Text.Blank
import ScriptGate.Proofs.Text.Match
import ScriptGate.Proofs.Text.Spelling

namespace ScriptGate.Text

/-! ## §1. Words -/

/-- The words of a text, in order. -/
def words (text : List Char) : List (List Char) :=
  (text.splitOnP (!isWordChar ·)).filter (· ≠ [])

@[simp] theorem words_nil : words [] = [] := by
  unfold words
  rw [List.splitOnP_nil]
  rfl

/-- **Words split at a character that belongs to none.** -/
theorem words_append_break {c : Char} (h : isWordChar c = false) (x y : List Char) :
    words (x ++ c :: y) = words x ++ words y := by
  unfold words
  rw [List.splitOnP_append_cons x y (by rw [h]; rfl), List.filter_append]

theorem words_cons_break {c : Char} (h : isWordChar c = false) (text : List Char) :
    words (c :: text) = words text := by
  have hsplit := words_append_break h [] text
  rwa [words_nil, List.nil_append] at hsplit

/-- A word is all there is of a text without breaks. -/
theorem words_of_forall {word : List Char} (hne : word ≠ [])
    (h : ∀ c ∈ word, isWordChar c = true) : words word = [word] := by
  have hnone : ∀ c ∈ word, (!isWordChar c) = false := by
    intro c hc
    rw [h c hc]
    rfl
  unfold words
  rw [List.splitOnP_eq_singleton hnone]
  exact List.filter_cons_of_pos (decide_eq_true hne)

/-- Where no word goes on, a text falls into the words of its two parts. -/
theorem words_append {x y : List Char}
    (h : x.getLast?.any isWordChar = false ∨ y.head?.any isWordChar = false) :
    words (x ++ y) = words x ++ words y := by
  rcases h with hx | hy
  · rcases List.eq_nil_or_concat x with rfl | ⟨front, c, rfl⟩
    · rw [words_nil, List.nil_append, List.nil_append]
    · rw [List.concat_eq_append] at hx ⊢
      rw [List.getLast?_concat] at hx
      rw [List.append_assoc, List.singleton_append, words_append_break hx,
        words_append_break hx front [], words_nil, List.append_nil]
  · cases y with
    | nil => rw [words_nil, List.append_nil, List.append_nil]
    | cons c rest =>
      rw [words_append_break hy, words_cons_break hy]

/-- Blanks hold no word. -/
theorem words_of_blank {blanks : List Char} (h : blanks.all isBlank = true) :
    words blanks = [] := by
  induction blanks with
  | nil => exact words_nil
  | cons c rest ih =>
    rw [List.all_cons, Bool.and_eq_true] at h
    rw [words_cons_break (isWordChar_of_isBlank h.1), ih h.2]

theorem any_isWordChar_of_blank {o : Option Char} (h : ∀ c ∈ o, isBlank c = true) :
    o.any isWordChar = false := by
  cases o with
  | none => rfl
  | some c => exact isWordChar_of_isBlank (h c rfl)

/-- Trimming takes no word away. -/
theorem words_trim (text : List Char) : words (trim text) = words text := by
  obtain ⟨a, b, htext, ha, hb⟩ := exists_trim text
  have hleft : a.getLast?.any isWordChar = false :=
    any_isWordChar_of_blank fun c hc => List.all_eq_true.1 ha c (List.mem_of_getLast? hc)
  have hright : b.head?.any isWordChar = false :=
    any_isWordChar_of_blank fun c hc => List.all_eq_true.1 hb c (List.mem_of_head? hc)
  calc words (trim text) = words (a ++ trim text ++ b) := by
        rw [words_append (.inr hright), words_append (.inl hleft), words_of_blank ha,
          words_of_blank hb, List.nil_append, List.append_nil]
    _ = words text := by rw [← htext]

/-! ## §2. Places of words -/

/-- The word stands somewhere in the text, and no word goes on at its ends. -/
def StandsIn (word text : List Char) : Prop :=
  ∃ a b, text = a ++ word ++ b ∧ a.getLast?.any isWordChar = false ∧
    b.head?.any isWordChar = false

theorem standsIn_of_mem_words {word : List Char} : ∀ {text : List Char}, word ∈ words text →
    word ≠ [] ∧ (∀ c ∈ word, isWordChar c = true) ∧ StandsIn word text := by
  intro text
  -- by induction on the length: behind the first break the text is shorter
  induction hlength : text.length using Nat.strongRecOn generalizing text with
  | _ n ih =>
  intro hmem
  have htext : text.takeWhile isWordChar ++ text.dropWhile isWordChar = text :=
    List.takeWhile_append_dropWhile
  have hfront : ∀ c ∈ text.takeWhile isWordChar, isWordChar c = true :=
    fun c hc => List.all_eq_true.1 List.all_takeWhile c hc
  generalize text.takeWhile isWordChar = front at htext hfront
  have hfirst : word ∈ words front → word ≠ [] ∧ word = front := by
    intro hin
    by_cases hne : front = []
    · rw [hne, words_nil] at hin
      exact absurd hin List.not_mem_nil
    · rw [words_of_forall hne hfront, List.mem_singleton] at hin
      exact ⟨hin ▸ hne, hin⟩
  cases hback : text.dropWhile isWordChar with
  | nil =>
    rw [hback, List.append_nil] at htext
    obtain ⟨hne, rfl⟩ := hfirst (htext ▸ hmem)
    exact ⟨hne, hfront, [], [], by rw [htext, List.append_nil, List.nil_append], rfl, rfl⟩
  | cons c rest =>
    rw [hback] at htext
    have hc : isWordChar c = false := by
      have hhead := List.head?_dropWhile_not isWordChar text
      rw [hback] at hhead
      exact hhead
    rw [← htext, words_append_break hc, List.mem_append] at hmem
    rcases hmem with hmem | hmem
    · obtain ⟨hne, rfl⟩ := hfirst hmem
      exact ⟨hne, hfront, [], c :: rest, htext.symm, rfl, hc⟩
    · have hlt : rest.length < n := by
        rw [← hlength, ← htext, List.length_append, List.length_cons]
        omega
      obtain ⟨hne, hword, a, b, rfl, ha, hb⟩ := ih _ hlt rfl hmem
      refine ⟨hne, hword, front ++ c :: a, b, ?_, ?_, hb⟩
      · rw [← htext]
        simp only [List.append_assoc, List.cons_append]
      · rw [List.getLast?_append, List.getLast?_cons]
        cases hlast : a.getLast? with
        | none => exact hc
        | some d =>
          rw [hlast] at ha
          exact ha

/-- **Where the words of a text stand**: at the places where no word goes on. -/
theorem mem_words_iff {word text : List Char} : word ∈ words text ↔
    word ≠ [] ∧ (∀ c ∈ word, isWordChar c = true) ∧ StandsIn word text := by
  refine ⟨standsIn_of_mem_words, ?_⟩
  rintro ⟨hne, hword, a, b, rfl, ha, hb⟩
  rw [words_append (.inr hb), words_append (.inl ha), words_of_forall hne hword]
  exact List.mem_append_left _ (List.mem_append_right _ (List.mem_singleton.2 rfl))

end ScriptGate.Text

namespace ScriptGate.Text.Pattern

/-! ## §3. Searching for a word -/

theorem spans_all_cons {a : Pattern} {parts : List Pattern} {p q : Place} :
    (all (a :: parts)).Spans p q ↔ ∃ r, a.Spans p r ∧ (all parts).Spans r q := Iff.rfl

theorem spans_letters {cs : List Char} : ∀ {p q : Place},
    (all (cs.map fun c => one (· == c))).Spans p q ↔ p.Passed q cs := by
  induction cs with
  | nil => exact fun {p q} => passed_nil.symm
  | cons c rest ih =>
    intro p q
    obtain ⟨before, ahead⟩ := p
    rw [List.map_cons, spans_all_cons]
    constructor
    · rintro ⟨r, ⟨d, hd, hpassed⟩, hrest⟩
      obtain rfl : d = c := beq_iff_eq.1 hd
      cases ahead with
      | nil => exact absurd hpassed.ahead.symm (List.cons_ne_nil _ _)
      | cons e more =>
        obtain ⟨rfl, hnil⟩ := passed_cons.1 hpassed
        obtain rfl := passed_nil.1 hnil
        exact passed_cons.2 ⟨rfl, ih.1 hrest⟩
    · intro hpassed
      cases ahead with
      | nil => exact absurd hpassed.ahead.symm (List.cons_ne_nil _ _)
      | cons e more =>
        obtain ⟨rfl, hrest⟩ := passed_cons.1 hpassed
        exact ⟨_, ⟨c, beq_self_eq_true c, passed_cons.2 ⟨rfl, passed_nil.2 rfl⟩⟩, ih.2 hrest⟩

/-- A text is matched where it lies between two places. -/
theorem spans_text {s : String} {p q : Place} : (text s).Spans p q ↔ p.Passed q s.toList :=
  spans_letters

theorem any_head?_of_passed {p q : Place} {taken : List Char} (hne : taken ≠ [])
    (h : p.Passed q taken) {inClass : Char → Bool} (hall : ∀ c ∈ taken, inClass c = true) :
    p.ahead.head?.any inClass = true ∧ q.before.any inClass = true := by
  obtain ⟨hahead, hbefore⟩ := h
  constructor
  · obtain ⟨c, rest, rfl⟩ := List.exists_cons_of_ne_nil hne
    rw [hahead]
    exact hall c List.mem_cons_self
  · rw [hbefore]
    cases hlast : taken.getLast? with
    | none => exact absurd (List.getLast?_eq_none_iff.1 hlast) hne
    | some c => exact hall c (List.mem_of_getLast? hlast)

/-- **A search for a word finds the words of a text.** -/
theorem occurs_word_iff {s : String} (hne : s.toList ≠ [])
    (hword : ∀ c ∈ s.toList, isWordChar c = true) (cs : List Char) :
    (word s).occurs cs = true ↔ s.toList ∈ words cs := by
  rw [occurs_iff_spans, mem_words_iff]
  -- both ways the text falls into what stands in front, the word, and what stands behind
  constructor
  · rintro ⟨p, q, a, hpassed, _, ⟨hleft, rfl⟩, r, htext, _, ⟨hright, rfl⟩, rfl⟩
    have htaken := spans_text.1 htext
    obtain ⟨hhead, hlast⟩ := any_head?_of_passed hne htaken hword
    refine ⟨hne, hword, a, r.ahead, ?_, ?_, ?_⟩
    · have hahead : cs = a ++ p.ahead := hpassed.ahead
      rw [hahead, htaken.ahead, List.append_assoc]
    · have hbefore : p.before = a.getLast? := by rw [hpassed.before, Option.or_none]
      rw [Place.isWordEdge, hhead, hbefore] at hleft
      simpa using hleft
    · rw [Place.isWordEdge, hlast] at hright
      simpa using hright
  · rintro ⟨-, -, a, b, rfl, ha, hb⟩
    have htaken : (Place.mk a.getLast? (s.toList ++ b)).Passed
        ⟨s.toList.getLast?.or a.getLast?, b⟩ s.toList := ⟨rfl, rfl⟩
    obtain ⟨hhead, hlast⟩ := any_head?_of_passed hne htaken hword
    refine ⟨⟨a.getLast?, s.toList ++ b⟩, ⟨s.toList.getLast?.or a.getLast?, b⟩, a, ⟨?_, ?_⟩,
      _, ⟨?_, rfl⟩, _, spans_text.2 htaken, _, ⟨?_, rfl⟩, rfl⟩
    · exact List.append_assoc _ _ _
    · rw [Option.or_none]
    · rw [Place.isWordEdge, hhead, ha]
      rfl
    · rw [Place.isWordEdge, hlast, hb]
      rfl

end ScriptGate.Text.Pattern
