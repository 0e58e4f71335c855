/-
  ScriptGate.Setting.Host — the machine that a location names.

  Locations on the web name a machine by an address or by a name, which is unescaped and compared
  in small letters; any other location names it by a text of its own.  An address of groups stands
  between brackets in both.
  Main statement:
    - `ofOpaque?_plain` — a text of plain letters, digits, hyphens and points names itself.
-/
import ScriptGate.Setting.Address
import ScriptGate.Domain.Name
import ScriptGate.Text.Percent

namespace ScriptGate.Setting

open ScriptGate.Text

/-- A machine. -/
inductive Host where
  /-- by its name -/
  | name (chars : List Char)
  /-- by an address of octets -/
  | octets (address : Ipv4)
  /-- by an address of groups -/
  | groups (address : Ipv6)
deriving DecidableEq, Repr

namespace Host

/-- The machine as a location writes it. -/
def text : Host → String
  | name chars => String.ofList chars
  | octets a => a.text
  | groups a => String.ofList ('[' :: a.chars ++ [']'])

/-- Reads an address between brackets. -/
def ofBrackets? (cs : List Char) : Option Host :=
  if cs.getLast? == some ']' then (Ipv6.ofChars? (cs.drop 1).dropLast).map groups else none

/-- Reads the machine of a location on the web. -/
def ofWeb? (cs : List Char) : Option Host := do
  if cs.head? == some '[' then ofBrackets? cs
  else
    let domain ← Domain.ofChars? (← Percent.text? cs)
    if Ipv4.looksLike domain then (Ipv4.ofLoose? domain).map octets else some (name domain)

/-- Characters that no machine is named with. -/
def isForbidden (c : Char) : Bool :=
  c == '\x00' || "\t\n\r #/:<>?@[\\]^|".toList.contains c

/-- Characters that a name escapes: controls and everything beyond ASCII. -/
def isEscaped (c : Char) : Bool := c.toNat < 0x20 || 0x7f ≤ c.toNat

/-- Reads the machine of any other location. -/
def ofOpaque? (cs : List Char) : Option Host :=
  if cs.head? == some '[' then ofBrackets? cs
  else if cs.any isForbidden then none
  else some (name (Percent.encode isEscaped cs))

/-- Letters, digits, hyphens and points. -/
def isPlain (c : Char) : Bool :=
  ('a' ≤ c && c ≤ 'z') || ('A' ≤ c && c ≤ 'Z') || ('0' ≤ c && c ≤ '9') || c == '-' || c == '.'

theorem isPlain_cases {c : Char} (h : isPlain c = true) :
    isForbidden c = false ∧ isEscaped c = false ∧ c ≠ '[' := by
  have hn : c.toNat < 128 := by
    simp only [isPlain, Bool.or_eq_true, Bool.and_eq_true, decide_eq_true_eq, beq_iff_eq] at h
    rcases h with ((((h | h) | h) | rfl) | rfl)
    · exact Nat.lt_of_le_of_lt h.2 (by decide)
    · exact Nat.lt_of_le_of_lt h.2 (by decide)
    · exact Nat.lt_of_le_of_lt h.2 (by decide)
    · decide
    · decide
  exact forall_ascii (P := fun c => isPlain c = true →
    isForbidden c = false ∧ isEscaped c = false ∧ c ≠ '[') (by decide +kernel)
    (by simpa [isAscii] using hn) h

/-- A text of plain letters, digits, hyphens and points names itself. -/
theorem ofOpaque?_plain {cs : List Char} (h : ∀ c ∈ cs, isPlain c = true) :
    ofOpaque? cs = some (name cs) := by
  have hhead : (cs.head? == some '[') = false := by
    cases cs with
    | nil => rfl
    | cons c rest =>
      simp only [List.head?_cons, beq_eq_false_iff_ne, ne_eq, Option.some.injEq]
      exact (isPlain_cases (h c (by simp))).2.2
  have hany : cs.any isForbidden = false := by
    rw [List.any_eq_false]
    intro c hc
    rw [(isPlain_cases (h c hc)).1]
    decide
  have henc : Percent.encode isEscaped cs = cs :=
    Percent.encode_eq_self fun c hc => (isPlain_cases (h c hc)).2.1
  rw [ofOpaque?, hhead, hany, henc]
  rfl

end Host

end ScriptGate.Setting
