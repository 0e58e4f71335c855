/-
  ScriptGate.Proofs.Text.Search — where a search finds a text in another.

  A search goes to the first place where the text is found.  A text does not reach over a character
  that it does not hold, so what is put together of parts with such characters between them holds
  it only if one of the parts does.
  Main statements:
    - `infix_of_append_seps`    — a text is found on one side of what separates two others;
    - `fromOccurrence?_append`  — a search finds what it looks for, or something in front of it;
    - `found_eq_nil`            — and nothing in front of it where it does not stand there.
-/
import ScriptGate.Statement.Shape

namespace ScriptGate.Statement

/-! ## §1. Parts of a text -/

section

variable {needle x y : List Char} {c : Char}

/-- A prefix does not reach beyond a character that it does not hold. -/
theorem prefix_of_append_cons (hc : c ∉ needle) (h : needle <+: x ++ c :: y) : needle <+: x := by
  have hfront : x ++ [c] <+: x ++ c :: y := ⟨y, by rw [List.append_assoc, List.singleton_append]⟩
  rcases List.prefix_or_prefix_of_prefix h hfront with hshort | hlong
  · rcases List.prefix_concat_iff.1 hshort with hsame | hx
    · exact absurd (hsame ▸ List.mem_concat_self) hc
    · exact hx
  · exact absurd (hlong.subset List.mem_concat_self) hc

/-- Nor does a part of a text. -/
theorem infix_of_append_cons (hc : c ∉ needle) (h : needle <:+: x ++ c :: y) :
    needle <:+: x ∨ needle <:+: y := by
  induction x with
  | nil =>
    rcases List.infix_cons_iff.1 h with hfirst | hlater
    · exact .inl (prefix_of_append_cons (x := []) hc hfirst).isInfix
    · exact .inr hlater
  | cons d x ih =>
    rcases List.infix_cons_iff.1 h with hfirst | hlater
    · exact .inl (prefix_of_append_cons (x := d :: x) hc hfirst).isInfix
    · exact (ih hlater).imp_left fun hx => hx.trans (List.suffix_cons d x).isInfix

variable {seps : List Char} (hseps : ∀ d ∈ seps, d ∉ needle)
include hseps

theorem infix_of_seps_append (h : needle <:+: seps ++ y) : needle <:+: y := by
  induction seps with
  | nil => exact h
  | cons d rest ih =>
    obtain ⟨hd, hrest⟩ := List.forall_mem_cons.1 hseps
    rcases infix_of_append_cons (x := []) hd h with hnil | hlater
    · rw [List.infix_nil.1 hnil]
      exact List.nil_infix
    · exact ih hrest hlater

theorem infix_of_append_seps (hne : seps ≠ []) (h : needle <:+: x ++ (seps ++ y)) :
    needle <:+: x ∨ needle <:+: y := by
  obtain ⟨d, rest, rfl⟩ := List.exists_cons_of_ne_nil hne
  obtain ⟨hd, hrest⟩ := List.forall_mem_cons.1 hseps
  exact (infix_of_append_cons hd h).imp_right (infix_of_seps_append hrest)

end

/-! ## §2. The search -/

theorem fromOccurrence?_of_prefix {needle text : List Char} (h : needle <+: text) :
    fromOccurrence? needle text = some text := by
  cases text with
  | nil =>
    rw [List.prefix_nil.1 h]
    rfl
  | cons c rest => exact if_pos (List.isPrefixOf_iff_prefix.2 h)

/-- **A search finds what it looks for, or something that begins in front of it.** -/
theorem fromOccurrence?_append (needle front back : List Char) :
    ∃ found, found <:+ front ∧ needle <+: found ++ (needle ++ back) ∧
      fromOccurrence? needle (front ++ (needle ++ back)) = some (found ++ (needle ++ back)) := by
  induction front with
  | nil =>
    have hbegins : needle <+: [] ++ (needle ++ back) := List.prefix_append needle back
    exact ⟨[], List.suffix_refl [], hbegins, fromOccurrence?_of_prefix hbegins⟩
  | cons c rest ih =>
    by_cases hhere : needle <+: c :: (rest ++ (needle ++ back))
    · exact ⟨c :: rest, List.suffix_refl _, hhere, fromOccurrence?_of_prefix hhere⟩
    · obtain ⟨found, hfound, hbegins, hlater⟩ := ih
      refine ⟨found, hfound.trans (List.suffix_cons c rest), hbegins, ?_⟩
      rw [List.cons_append, fromOccurrence?,
        if_neg fun h => hhere (List.isPrefixOf_iff_prefix.1 h), hlater]

/-- It begins in front only if it is there, or goes on from there into what is looked for. -/
theorem found_eq_nil {needle front back found : List Char} (hfound : found <:+ front)
    (hbegins : needle <+: found ++ (needle ++ back)) (hfront : ¬ needle <:+: front)
    (hlast : ∀ c ∈ front.getLast?, c ∉ needle) : found = [] := by
  rcases List.eq_nil_or_concat found with hnil | ⟨init, c, hconcat⟩
  · exact hnil
  · rw [List.concat_eq_append] at hconcat
    subst hconcat
    obtain ⟨before, hbefore⟩ := hfound
    have hc : c ∉ needle := by
      refine hlast c ?_
      rw [← hbefore, ← List.append_assoc, List.getLast?_concat]
      rfl
    rw [List.append_assoc, List.singleton_append] at hbegins
    have hinit : init <:+: front := ⟨before, [c], by rw [List.append_assoc, hbefore]⟩
    exact absurd ((prefix_of_append_cons hc hbegins).isInfix.trans hinit) hfront

end ScriptGate.Statement
