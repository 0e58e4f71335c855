/-
  ScriptGate.Proofs.Script.Quote — where a dollar quote ends.

  A dollar quote ends at the first closing delimiter in its body.  The scanner looks for it behind
  the opening delimiter, of which it takes one character for every byte of the tag; beyond ASCII
  these are more than there are, and the rest is taken from the body.  Where the body is too short
  for that the closing delimiter is broken, and the quote goes on with what comes behind it.
  Main statements:
    - `run_quote`       — a quote is kept, and it is closed exactly if its body has room for what
                          the opening delimiter takes along;
    - `quote_ends_iff`  — exactly then the statements behind the quote are those of the rest.
-/
import ScriptGate.Proofs.Script.Delimiter
import ScriptGate.Proofs.Script.Output
import ScriptGate.Proofs.Text.Blank

namespace ScriptGate.Script

open ScriptGate.Text

/-! ## §1. The scan of a quote -/

/-- A dollar quote as it is written. -/
def dollarQuote (tag body : List Char) : List Char :=
  dollarDelimiter tag ++ body ++ dollarDelimiter tag

/-- Every byte of the tag finds a character of its own in the tag or in the body. -/
def HasRoom (tag body : List Char) : Prop :=
  (String.ofList tag).utf8ByteSize ≤ tag.length + body.length

instance (tag body : List Char) : Decidable (HasRoom tag body) :=
  inferInstanceAs (Decidable (_ ≤ _))

/-- A tag of ASCII characters needs nothing of the body. -/
theorem hasRoom_of_ascii {tag : List Char} (h : ∀ c ∈ tag, isAscii c = true)
    (body : List Char) : HasRoom tag body := by
  have hlength := openerLength_ascii h
  rw [openerLength_eq_size] at hlength
  unfold HasRoom
  omega

theorem getLast?_dollarQuote (tag body : List Char) :
    (dollarQuote tag body).getLast? = some '$' := by
  unfold dollarQuote dollarDelimiter
  rw [← List.append_assoc, List.getLast?_concat]

/-- **The scan of a quote**: it is kept, and behind it the scan is at top level again exactly if
    its body has room. -/
theorem run_quote {s : Scanner} (hs : s.mode.isTop = true)
    (hcurrent : s.current.head?.any isNameChar = false) {tag body : List Char}
    (htag : tag.all isNameChar = true) (h : EndsFirst (dollarDelimiter tag) body) :
    ∃ mode : Mode, s.run (dollarQuote tag body)
        = ⟨mode, (dollarQuote tag body).reverse ++ s.current, s.closed⟩ ∧
      mode.gives ';' = some ';' ∧ (mode.isTop = true ↔ HasRoom tag body) := by
  have hbytes := openerLength_eq_size tag
  have hlt := length_lt_openerLength tag
  let extra := openerLength tag - (tag.length + 1)
  unfold HasRoom
  by_cases hroom : (String.ofList tag).utf8ByteSize ≤ tag.length + body.length
  · -- what is read along with the opening delimiter is the front of the body
    have hlength : tag.length + 1 + (body.take extra).length = openerLength tag := by
      rw [List.length_take]
      omega
    have hback : EndsFirst (dollarDelimiter tag) (body.drop extra) := by
      rw [← List.take_append_drop extra body] at h
      exact h.back
    have hrun := run_dollar hs hcurrent htag hlength hback []
    dsimp only at hrun
    rw [List.append_assoc (dollarDelimiter tag), List.take_append_drop, List.append_nil] at hrun
    exact ⟨.top, hrun, rfl, fun _ => hroom, fun _ => rfl⟩
  · -- what is left behind it is shorter than a closing delimiter
    have hshort : ¬ dollarDelimiter tag <:+: (body ++ dollarDelimiter tag).drop extra := by
      intro hin
      have hle := hin.length_le
      rw [List.length_drop, List.length_append, length_dollarDelimiter] at hle
      omega
    obtain ⟨opener, inside, hrun⟩ := run_unclosed_dollar hs hcurrent htag hshort
    rw [← List.append_assoc] at hrun
    exact ⟨_, hrun, rfl, fun htop => Bool.noConfusion htop, fun hyes => absurd hyes hroom⟩

/-! ## §2. What comes behind a quote -/

/-- A quote at the end of a script is the end of its last statement. -/
theorem exists_last_quote {a tag body : List Char} {mode : Mode} {current : List Char}
    {closed : List (List Char)}
    (hrun : Scanner.start.run (a ++ dollarQuote tag body)
      = ⟨mode, (dollarQuote tag body).reverse ++ current, closed⟩) :
    ∃ front last, fragments (a ++ dollarQuote tag body) = front ++ [last] ∧
      dollarQuote tag body <:+ last := by
  -- trimming stops at the quote, which ends in dollar signs
  have htrim : trim (current.reverse ++ dollarQuote tag body)
      = trimStart current.reverse ++ dollarQuote tag body := by
    have hlast : (dollarQuote tag body).getLast?.any isBlank = false := by
      rw [getLast?_dollarQuote]
      decide
    have haround := trim_around (List.cons_ne_nil _ _) (show isBlank '$' = false by decide) hlast
      current.reverse []
    rw [List.append_nil] at haround
    exact haround.trans (List.append_nil _)
  have hwhole : whole ((dollarQuote tag body).reverse ++ current).reverse
      = [trimStart current.reverse ++ dollarQuote tag body] := by
    rw [whole_of_not_blank, List.reverse_append, List.reverse_reverse, htrim]
    rw [List.all_reverse, List.all_append, List.all_reverse]
    rfl
  refine ⟨closed.reverse, trimStart current.reverse ++ dollarQuote tag body, ?_,
    List.suffix_append _ _⟩
  show (Scanner.start.run (a ++ dollarQuote tag body)).cut.closed.reverse = _
  rw [hrun, closed_cut, hwhole, List.reverse_append]
  rfl

/-- **A dollar quote ends at its closing delimiter exactly if its body has room**, whatever comes
    behind it: then the statements behind the semicolon are those of the rest, and otherwise the
    quote swallows the semicolon.  In both cases it is kept as it is. -/
theorem quote_ends_iff {a : List Char} (htop : (Scanner.start.run a).mode.isTop = true)
    (hlast : a.getLast?.all isBlank = true) {tag body : List Char}
    (htag : tag.all isNameChar = true) (h : EndsFirst (dollarDelimiter tag) body) :
    let text := a ++ dollarQuote tag body
    (∀ r, fragments (text ++ ';' :: r) = fragments text ++ fragments r ↔ HasRoom tag body) ∧
      ∃ front last, fragments text = front ++ [last] ∧ dollarQuote tag body <:+ last := by
  intro text
  obtain ⟨mode, hrun, hgives, hmode⟩ := run_quote htop (nameless_of_blank hlast htop) htag h
  rw [← run_append_of_blank _ hlast] at hrun
  refine ⟨fun r => ?_, exists_last_quote hrun⟩
  have hcurrent : (Scanner.start.run text).current.all isBlank = false := by
    rw [hrun, List.all_append, List.all_reverse]
    rfl
  rw [separated_iff (by rw [hrun]; exact hgives) hcurrent r, hrun]
  exact hmode

/-- With an empty body, the quote of a tag of two bytes swallows the statement behind it, and that
    of a tag of one byte does not. -/
theorem empty_body_swallows :
    (¬ HasRoom ['é'] [] ∧ fragments "SELECT $é$$é$; DROP TABLE t".toList
      ≠ fragments "SELECT $é$$é$".toList ++ fragments " DROP TABLE t".toList) ∧
    (HasRoom ['t'] [] ∧ fragments "SELECT $t$$t$; DROP TABLE t".toList
      = fragments "SELECT $t$$t$".toList ++ fragments " DROP TABLE t".toList) := by
  have htop : (Scanner.start.run "SELECT ".toList).mode.isTop = true := by decide +kernel
  have hlast : "SELECT ".toList.getLast?.all isBlank = true := by decide
  have hends (tag : List Char) (htag : tag.all isNameChar = true) :=
    (quote_ends_iff htop hlast htag (endsFirst_nil _)).1 " DROP TABLE t".toList
  have hswallows : ¬ HasRoom ['é'] [] := by decide
  have hroom : HasRoom ['t'] [] :=
    hasRoom_of_ascii (List.forall_mem_singleton.2 (by decide)) []
  exact ⟨⟨hswallows, fun hsame => hswallows ((hends ['é'] (by decide +kernel)).1 hsame)⟩,
    hroom, (hends ['t'] (by decide)).2 hroom⟩

end ScriptGate.Script
