/-
  ScriptGate.Proofs.Text.Capital — texts in capitals.

  The capital form of a character consists of capitals: none of them has another capital form, and
  none is a blank unless the character is one.  So a text in capitals does not start with a blank
  unless the text does, and its opening word is in capitals as it stands.
  Main statements:
    - `isCapital_of_mem_upperOf` — what a capital form consists of;
    - `eq_of_mem_upperOf`        — which capital forms lie in ASCII;
    - `isBlank_head?_upper`      — blanks at the front of a text in capitals;
    - `leadingKeyword_upper`     — the opening word of a text in capitals;
    - `leadingKeyword_of_upper`  — it is that of the text.
-/
import ScriptGate.Proofs.Text.Blank
import ScriptGate.Proofs.Text.Spelling
import ScriptGate.Script.Keyword

namespace ScriptGate.Text

/-! ## §1. The tables -/

/-- Is a character its own capital form, and no blank? -/
def isCapital (c : Char) : Bool := upperOf c == [c] && !isBlank c

namespace CaseRun

/-- Are the images of a run all behind the last number of a range, or all in front of the first
    one? -/
def isApart (r : CaseRun) (first last : Nat) : Bool :=
  last.blt r.image || (r.image + (r.last - r.first)).blt first

/-- Are the images of a run apart from those that another run maps?  Two runs of stride two may be
    woven into each other. -/
def isUncovered (r q : CaseRun) : Bool :=
  r.isApart q.first q.last ||
    (r.stride.beq 2 || r.first.beq r.last) && q.stride.beq 2 && ((r.image + q.first) % 2).beq 1

/-- Are the images of a run apart from ASCII, from the blanks and from all that has a capital
    form? -/
def isFinal (r : CaseRun) : Bool :=
  r.isApart 0 127 && blankRanges.all (fun q => r.isApart q.1 q.2) &&
    upperExpansions.all (fun e => r.isApart e.1 e.1) && upperRuns.all r.isUncovered

/-- Are the images of a run characters beyond ASCII? -/
def isBeyond (r : CaseRun) : Bool :=
  r.isApart 0 127 && r.isApart 0xD800 0xDFFF &&
    (r.image + (r.last - r.first)).blt 0x110000

end CaseRun

/-- The runs lead to capitals beyond ASCII.  Two letters have a capital inside of it. -/
theorem runs_final : upperRuns.all (fun r => r.isFinal && r.isBeyond ||
    r.first.beq r.last &&
      (isCapital (Char.ofNat r.image) && (Char.ofNat r.image).isUpper)) = true := by
  decide +kernel

/-- The expansions lead to capitals, beyond ASCII or letters of it, and none of them is empty. -/
theorem expansions_final : upperExpansions.all (fun e => !e.2.isEmpty && e.2.all fun n =>
    isCapital (Char.ofNat n) &&
      (!isAscii (Char.ofNat n) || (Char.ofNat n).isUpper)) = true := by
  decide +kernel

/-- In ASCII the capital form is a capital, and what is no letter is its own. -/
theorem ascii_final {c : Char} (h : isAscii c = true) :
    (isBlank c = false → isCapital c.toUpper = true) ∧
      (c.toUpper.isUpper = false → c.toUpper = c) := by
  have key : ∀ n, n < 128 → (isBlank (Char.ofNat n) = false →
      isCapital (Char.ofNat n).toUpper = true) ∧
        ((Char.ofNat n).toUpper.isUpper = false → (Char.ofNat n).toUpper = Char.ofNat n) := by
    decide +kernel
  exact forall_ascii (P := fun c => (isBlank c = false → isCapital c.toUpper = true) ∧
    (c.toUpper.isUpper = false → c.toUpper = c)) key h

section

variable {r : CaseRun} {n : Nat}

theorem CaseRun.lt_of_isApart {first last : Nat} (h : r.isApart first last = true)
    (hlast : n ≤ r.last) : r.image + (n - r.first) < first ∨ last < r.image + (n - r.first) := by
  simp only [CaseRun.isApart, Bool.or_eq_true, Nat.blt_eq] at h
  -- the image lies between that of the first number and that of the last one
  omega

/-- What the images of a run are apart from maps none of them. -/
theorem apply?_of_isUncovered {runs : List CaseRun} (h : runs.all r.isUncovered = true)
    (hfirst : r.first ≤ n) (hlast : n ≤ r.last) (hstride : (n - r.first) % r.stride = 0) :
    CaseRun.apply? runs (r.image + (n - r.first)) = none := by
  unfold CaseRun.apply?
  rw [List.findSome?_eq_none_iff]
  intro q hq
  have hqr := List.all_eq_true.1 h q hq
  rw [if_neg]
  intro hcovers
  simp only [Bool.and_eq_true, decide_eq_true_eq, beq_iff_eq] at hcovers
  obtain ⟨⟨hqfirst, hqlast⟩, hqstride⟩ := hcovers
  unfold CaseRun.isUncovered at hqr
  rw [Bool.or_eq_true] at hqr
  rcases hqr with hapart | hwoven
  · have hout := CaseRun.lt_of_isApart hapart hlast
    omega
  · -- both go in steps of two, and from numbers of which one is even and one is odd
    simp only [Bool.and_eq_true, Bool.or_eq_true, Nat.beq_eq] at hwoven
    obtain ⟨⟨hsteps, htwo⟩, hodd⟩ := hwoven
    rw [htwo] at hqstride
    rcases hsteps with hsteps | hsole
    · rw [hsteps] at hstride
      omega
    · omega

/-- A number beyond ASCII that no table maps and that is no blank is that of a capital. -/
theorem isCapital_ofNat (hascii : 127 < n) (hblank : inRanges blankRanges n = false)
    (hexpansion : upperExpansions.lookup n = none) (hrun : CaseRun.apply? upperRuns n = none) :
    isCapital (Char.ofNat n) = true := by
  by_cases hvalid : n.isValidChar
  · have hn : (Char.ofNat n).toNat = n := by
      unfold Char.ofNat
      rw [dif_pos hvalid]
      rfl
    have hc : isAscii (Char.ofNat n) = false := by
      unfold isAscii
      rw [hn]
      exact decide_eq_false (by omega)
    unfold isCapital upperOf mapCase isBlank
    rw [hc, hn, hexpansion, hrun, hblank]
    simp
  · -- such a number stands for the first character
    rw [show Char.ofNat n = '\x00' from dif_neg hvalid]
    decide

end

/-- What maps a number is a run that covers it. -/
theorem CaseRun.exists_of_apply? {runs : List CaseRun} {n m : Nat}
    (h : CaseRun.apply? runs n = some m) : ∃ r ∈ runs,
      ((r.first ≤ n ∧ n ≤ r.last) ∧ (n - r.first) % r.stride = 0) ∧
        r.image + (n - r.first) = m := by
  unfold CaseRun.apply? at h
  obtain ⟨r, hr, hcovers⟩ := List.exists_of_findSome?_eq_some h
  exact ⟨r, hr, by simpa using hcovers⟩

/-- What a run makes of a character is a capital. -/
theorem isCapital_of_apply? {n m : Nat} (h : CaseRun.apply? upperRuns n = some m) :
    isCapital (Char.ofNat m) = true := by
  obtain ⟨r, hr, ⟨⟨hfirst, hlast⟩, hstride⟩, rfl⟩ := CaseRun.exists_of_apply? h
  have hfinal := List.all_eq_true.1 runs_final r hr
  simp only [Bool.or_eq_true, Bool.and_eq_true, Nat.beq_eq] at hfinal
  rcases hfinal with ⟨hfinal, -⟩ | ⟨hsole, hcapital, -⟩
  · -- beyond ASCII a number is a capital if no table knows it
    unfold CaseRun.isFinal at hfinal
    simp only [Bool.and_eq_true] at hfinal
    obtain ⟨⟨⟨hascii, hblanks⟩, hexpansions⟩, hruns⟩ := hfinal
    refine isCapital_ofNat ?_ ?_ ?_ (apply?_of_isUncovered hruns hfirst hlast hstride)
    · have hout := CaseRun.lt_of_isApart hascii hlast
      omega
    · unfold inRanges
      rw [List.any_eq_false]
      intro q hq
      have hout := CaseRun.lt_of_isApart (List.all_eq_true.1 hblanks q hq) hlast
      rw [Bool.and_eq_true, decide_eq_true_eq, decide_eq_true_eq]
      omega
    · rw [List.lookup_eq_none_iff]
      intro e he
      have hout := CaseRun.lt_of_isApart (List.all_eq_true.1 hexpansions e he) hlast
      rw [bne_iff_ne]
      omega
  · rw [show n - r.first = 0 by omega, Nat.add_zero]
    exact hcapital

theorem isAscii_of_isBeyond {r : CaseRun} (h : r.isBeyond = true) {n : Nat}
    (hlast : n ≤ r.last) : isAscii (Char.ofNat (r.image + (n - r.first))) = false := by
  simp only [CaseRun.isBeyond, Bool.and_eq_true, Nat.blt_eq] at h
  obtain ⟨⟨hascii, hsurrogate⟩, hbound⟩ := h
  have hout := CaseRun.lt_of_isApart hascii hlast
  have hvalid : (r.image + (n - r.first)).isValidChar := by
    have hout' := CaseRun.lt_of_isApart hsurrogate hlast
    unfold Nat.isValidChar
    omega
  unfold isAscii Char.ofNat
  rw [dif_pos hvalid]
  exact decide_eq_false (show ¬ (r.image + (n - r.first)) < 0x80 by omega)

/-- What a run makes of a character is a letter where it lies in ASCII. -/
theorem isUpper_of_run {n m : Nat} (h : CaseRun.apply? upperRuns n = some m)
    (hascii : isAscii (Char.ofNat m) = true) : (Char.ofNat m).isUpper = true := by
  obtain ⟨r, hr, ⟨⟨-, hlast⟩, -⟩, rfl⟩ := CaseRun.exists_of_apply? h
  have hfinal := List.all_eq_true.1 runs_final r hr
  simp only [Bool.or_eq_true, Bool.and_eq_true, Nat.beq_eq] at hfinal
  rcases hfinal with ⟨-, hbeyond⟩ | ⟨hsole, -, hupper⟩
  · rw [isAscii_of_isBeyond hbeyond hlast] at hascii
    exact Bool.noConfusion hascii
  · rw [show n - r.first = 0 by omega, Nat.add_zero]
    exact hupper

theorem mem_of_lookup {α β : Type} [BEq α] [LawfulBEq α] {table : List (α × β)} {a : α} {b : β}
    (h : table.lookup a = some b) : (a, b) ∈ table := by
  obtain ⟨front, back, htable, -⟩ := List.lookup_eq_some_iff.1 h
  rw [htable]
  exact List.mem_append_right _ List.mem_cons_self

/-- What an expansion consists of. -/
theorem expansion_final {n : Nat} {ns : List Nat} (h : upperExpansions.lookup n = some ns) :
    ns ≠ [] ∧ ∀ m ∈ ns, isCapital (Char.ofNat m) = true ∧
      (isAscii (Char.ofNat m) = true → (Char.ofNat m).isUpper = true) := by
  have hfinal := List.all_eq_true.1 expansions_final _ (mem_of_lookup h)
  rw [Bool.and_eq_true, Bool.not_eq_true', List.isEmpty_eq_false_iff, List.all_eq_true] at hfinal
  obtain ⟨hne, hall⟩ := hfinal
  refine ⟨hne, fun m hm => ?_⟩
  obtain ⟨hcapital, hletter⟩ := Bool.and_eq_true_iff.1 (hall m hm)
  refine ⟨hcapital, fun hascii => ?_⟩
  rw [hascii] at hletter
  exact hletter

/-! ## §2. Capital forms -/

/-- **What a capital form consists of**: of capitals, unless it is that of a blank. -/
theorem isCapital_of_mem_upperOf {c d : Char} (hc : isBlank c = false) (hd : d ∈ upperOf c) :
    isCapital d = true := by
  by_cases hascii : isAscii c = true
  · rw [upperOf_ascii hascii, List.mem_singleton] at hd
    rw [hd]
    exact (ascii_final hascii).1 hc
  · have hform : upperOf c = mapCase upperExpansions upperRuns c := if_neg hascii
    have hmapped := hd
    rw [hform] at hmapped
    unfold mapCase at hmapped
    cases hexpansion : upperExpansions.lookup c.toNat with
    | some ns =>
      rw [hexpansion] at hmapped
      obtain ⟨n, hn, rfl⟩ := List.mem_map.1 hmapped
      exact ((expansion_final hexpansion).2 n hn).1
    | none =>
      rw [hexpansion] at hmapped
      cases hrun : CaseRun.apply? upperRuns c.toNat with
      | some m =>
        rw [hrun] at hmapped
        rw [List.mem_singleton.1 hmapped]
        exact isCapital_of_apply? hrun
      | none =>
        -- nothing maps the character, so it is its own capital form
        rw [hrun] at hmapped
        have hself : upperOf c = [c] := by
          rw [hform]
          unfold mapCase
          rw [hexpansion, hrun]
        rw [List.mem_singleton.1 hmapped, isCapital, hself, hc]
        simp

theorem upperOf_of_mem_upperOf {c d : Char} (hd : d ∈ upperOf c) : upperOf d = [d] := by
  cases hc : isBlank c with
  | false =>
    have hcapital := isCapital_of_mem_upperOf hc hd
    rw [isCapital, Bool.and_eq_true, beq_iff_eq] at hcapital
    exact hcapital.1
  | true =>
    have hform := upperOf_of_isBlank hc
    rw [hform, List.mem_singleton] at hd
    rw [hd, hform]

theorem upper_of_forall {text : List Char} (h : ∀ c ∈ text, upperOf c = [c]) :
    upper text = text := by
  induction text with
  | nil => rfl
  | cons c rest ih =>
    rw [upper_cons, h c List.mem_cons_self, ih fun d hd => h d (List.mem_cons_of_mem _ hd)]
    rfl

/-- The characters of a text in capitals are their own capital form. -/
theorem upperOf_of_mem_upper {text : List Char} {d : Char} (hd : d ∈ upper text) :
    upperOf d = [d] := by
  obtain ⟨c, -, hd⟩ := List.mem_flatMap.1 hd
  exact upperOf_of_mem_upperOf hd

/-- **What is no letter of ASCII is the capital form of itself only.** -/
theorem eq_of_mem_upperOf {c d : Char} (hd : d ∈ upperOf c) (hascii : isAscii d = true)
    (hletter : d.isUpper = false) : d = c := by
  by_cases hc : isAscii c = true
  · rw [upperOf_ascii hc, List.mem_singleton] at hd
    rw [hd] at hletter ⊢
    exact (ascii_final hc).2 hletter
  · rw [show upperOf c = mapCase upperExpansions upperRuns c from if_neg hc] at hd
    unfold mapCase at hd
    -- beyond ASCII a form is an expansion, the image of a run, or the character
    cases hexpansion : upperExpansions.lookup c.toNat with
    | some ns =>
      rw [hexpansion] at hd
      obtain ⟨n, hn, rfl⟩ := List.mem_map.1 hd
      rw [((expansion_final hexpansion).2 n hn).2 hascii] at hletter
      exact Bool.noConfusion hletter
    | none =>
      rw [hexpansion] at hd
      cases hrun : CaseRun.apply? upperRuns c.toNat with
      | some m =>
        rw [hrun] at hd
        rw [List.mem_singleton.1 hd] at hascii hletter
        rw [isUpper_of_run hrun hascii] at hletter
        exact Bool.noConfusion hletter
      | none =>
        rw [hrun] at hd
        exact List.mem_singleton.1 hd

/-- No capital form is empty. -/
theorem upperOf_ne_nil (c : Char) : upperOf c ≠ [] := by
  unfold upperOf mapCase
  split
  · exact List.cons_ne_nil _ _
  · split
    · next ns hexpansion =>
      exact fun hnil => (expansion_final hexpansion).1 (List.map_eq_nil_iff.1 hnil)
    · split <;> exact List.cons_ne_nil _ _

theorem upper_ne_nil {text : List Char} (h : text ≠ []) : upper text ≠ [] := by
  obtain ⟨c, rest, rfl⟩ := List.exists_cons_of_ne_nil h
  rw [upper_cons]
  exact fun hnil => upperOf_ne_nil c (List.append_eq_nil_iff.1 hnil).1

/-- A text in capitals starts with a blank only if the text does. -/
theorem isBlank_head?_upper {text : List Char} (h : text.head?.any isBlank = false) :
    (upper text).head?.any isBlank = false := by
  cases text with
  | nil => rfl
  | cons c rest =>
    have hc : isBlank c = false := h
    rw [upper_cons]
    obtain ⟨d, more, hform⟩ := List.exists_cons_of_ne_nil (upperOf_ne_nil c)
    have hd := isCapital_of_mem_upperOf hc (show d ∈ upperOf c by
      rw [hform]
      exact List.mem_cons_self)
    rw [isCapital, Bool.and_eq_true, Bool.not_eq_true'] at hd
    rw [hform]
    exact hd.2

/-- A text in capitals ends with a blank only if the text does. -/
theorem isBlank_getLast?_upper {text : List Char} (h : text.getLast?.any isBlank = false) :
    (upper text).getLast?.any isBlank = false := by
  rcases List.eq_nil_or_concat text with rfl | ⟨front, c, rfl⟩
  · rfl
  · rw [List.concat_eq_append] at h ⊢
    rw [List.getLast?_concat] at h
    have hform : upper [c] = upperOf c := List.append_nil _
    have hlast := isCapital_of_mem_upperOf h (List.getLast_mem (upperOf_ne_nil c))
    rw [isCapital, Bool.and_eq_true, Bool.not_eq_true'] at hlast
    rw [upper_append, hform, List.getLast?_append, List.getLast?_eq_some_getLast (upperOf_ne_nil c)]
    exact hlast.2

end ScriptGate.Text

namespace ScriptGate.Script

open ScriptGate.Text

/-! ## §3. Opening words -/

/-- What ends the opening word is no part of it. -/
theorem leadingWord_upto {word : List Char} (hne : word ≠ [])
    (hword : ∀ c ∈ word, endsKeyword c = false) {c : Char} (hc : endsKeyword c = true)
    (rest : List Char) : leadingWord (word ++ c :: rest) = word := by
  -- no blank is in front of the word
  have htrim : trimStart (word ++ c :: rest) = word ++ c :: rest := by
    obtain ⟨first, others, rfl⟩ := List.exists_cons_of_ne_nil hne
    have hfirst := hword first List.mem_cons_self
    exact trimStart_eq_self (Bool.or_eq_false_iff.1 hfirst).1
  unfold leadingWord
  rw [htrim]
  refine takeWhile_upto (fun d hd => ?_) ?_ rest
  · rw [hword d hd]
    rfl
  · rw [hc]
    rfl

section

variable {text : List Char} (h : text.head?.any isBlank = false)
include h

theorem trimStart_upper : trimStart (upper text) = upper text :=
  trimStart_eq_self (isBlank_head?_upper h)

/-- The opening word of a text in capitals stands at its front. -/
theorem leadingWord_leads : leadingWord (upper text) <+: upper text := by
  unfold leadingWord
  rw [trimStart_upper h]
  exact List.takeWhile_prefix _

/-- The opening word of a text in capitals is in capitals as it stands. -/
theorem leadingKeyword_upper : leadingKeyword (upper text) = leadingWord (upper text) := by
  unfold leadingKeyword
  exact upper_of_forall fun c hc => upperOf_of_mem_upper ((leadingWord_leads h).mem hc)

end

/-- What does not end a word does not so in capitals either. -/
theorem endsKeyword_of_mem_upperOf {c d : Char} (hc : endsKeyword c = false)
    (hd : d ∈ upperOf c) : endsKeyword d = false := by
  obtain ⟨hblank, hparen⟩ := Bool.or_eq_false_iff.1 hc
  have hcapital := isCapital_of_mem_upperOf hblank hd
  rw [isCapital, Bool.and_eq_true, Bool.not_eq_true'] at hcapital
  unfold endsKeyword
  rw [hcapital.2, Bool.false_or, beq_eq_false_iff_ne]
  rintro rfl
  rw [← eq_of_mem_upperOf hd (by decide) (by decide)] at hparen
  exact Bool.noConfusion hparen

theorem upperOf_of_endsKeyword {c : Char} (h : endsKeyword c = true) : upperOf c = [c] := by
  rcases Bool.or_eq_true_iff.1 h with hblank | hparen
  · exact upperOf_of_isBlank hblank
  · rw [beq_iff_eq.1 hparen]
    decide

theorem upper_trimStart (text : List Char) : trimStart (upper text) = upper (trimStart text) := by
  induction text with
  | nil => rfl
  | cons c rest ih =>
    by_cases hc : isBlank c = true
    · rw [upper_cons, upperOf_of_isBlank hc, List.singleton_append]
      unfold trimStart at ih ⊢
      rw [List.dropWhile_cons_of_pos hc, List.dropWhile_cons_of_pos hc, ih]
    · rw [trimStart_upper (show ((c :: rest).head?.any isBlank) = false by simpa using hc)]
      unfold trimStart
      rw [List.dropWhile_cons_of_neg hc]

/-- The opening word of a text in capitals is that of the text, in capitals. -/
theorem leadingWord_upper (text : List Char) :
    leadingWord (upper text) = upper (leadingWord text) := by
  unfold leadingWord
  rw [upper_trimStart]
  induction trimStart text with
  | nil => rfl
  | cons c rest ih =>
    rw [upper_cons]
    cases hc : endsKeyword c with
    | true =>
      rw [upperOf_of_endsKeyword hc, List.singleton_append,
        List.takeWhile_cons_of_neg (by simp [hc]), List.takeWhile_cons_of_neg (by simp [hc])]
      rfl
    | false =>
      have hform : ∀ d ∈ upperOf c, (!endsKeyword d) = true := fun d hd => by
        rw [endsKeyword_of_mem_upperOf hc hd]
        rfl
      rw [List.takeWhile_append_of_pos hform, ih, List.takeWhile_cons_of_pos (by simp [hc]),
        upper_cons]

/-- **The opening word in capitals does not depend on the case of the text.** -/
theorem leadingKeyword_of_upper (text : List Char) :
    leadingKeyword (upper text) = leadingKeyword text := by
  unfold leadingKeyword
  rw [leadingWord_upper, upper_of_forall fun c hc => upperOf_of_mem_upper hc]

theorem keywordOf_upper_eq_iff (text : List Char) (word : String) :
    keywordOf (String.ofList (upper text)) = word ↔ leadingKeyword text = word.toList := by
  unfold keywordOf
  rw [String.toList_ofList, leadingKeyword_of_upper, ← String.toList_inj, String.toList_ofList]

end ScriptGate.Script
