/-
  ScriptGate.Proofs.Setting.Parts — a location that is put together from its parts.

  Who connects, the password, the machine, the port and the database stand in a location between
  marks that none of them holds once it is escaped.  So the location is read part by part, and each
  part is found as it is written: escaped.  The database alone may be lost, for a name of one or
  two points is a step in the path and leads nowhere.
  Main statements:
    - `ofMachine?_spelled`  — credentials, machine and port are found as they are written;
    - `points_component`    — an escaped name spells points only where the name consists of them;
    - `ofChars?_spelled`    — what a location of parts is read as.
-/
import ScriptGate.Proofs.Text.Spelling
import ScriptGate.Setting.Location

namespace ScriptGate.Setting

open ScriptGate.Text ScriptGate.Text.Percent

/-! ## §1. Characters of the parts -/

/-- The marks that stand between the parts of a location, and what is cut off around it. -/
def isLocationMark (c : Char) : Bool := c ≤ ' ' || "/?#@:[".toList.contains c

/-- What an escaped name is spelled with is no mark, and is not escaped again. -/
theorem isComponentChar_cases {c : Char} (h : isComponentChar c = true) :
    isLocationMark c = false ∧ isCredentialEscaped c = false ∧ isPathEscaped c = false :=
  forall_ascii (P := fun c => isComponentChar c = true →
    isLocationMark c = false ∧ isCredentialEscaped c = false ∧ isPathEscaped c = false)
    (by decide +kernel) (isAscii_of_isComponentChar h) h

/-- A machine is named with unreserved characters. -/
theorem isComponentChar_of_isPlain {c : Char} (h : Host.isPlain c = true) :
    isComponentChar c = true := by
  simp only [Host.isPlain, Bool.or_eq_true, Bool.and_eq_true, decide_eq_true_eq, beq_iff_eq] at h
  simp only [isComponentChar, isUnreserved, Bool.or_eq_true, isAlphanum_iff, beq_iff_eq]
  rcases h with (((hsmall | hcapital) | hdigit) | hhyphen) | hpoint
  · exact .inl (.inl (.inl (.inl (.inl (.inl (.inr hsmall))))))
  · exact .inl (.inl (.inl (.inl (.inl (.inl (.inl hcapital))))))
  · exact .inl (.inl (.inl (.inl (.inl (.inr hdigit)))))
  · exact .inl (.inl (.inl (.inl (.inr hhyphen))))
  · exact .inl (.inl (.inl (.inr hpoint)))

theorem isComponentChar_of_isDigit {c : Char} (h : c.isDigit = true) :
    isComponentChar c = true := by
  rw [isComponentChar, isUnreserved, Char.isAlphanum, h]
  simp only [Bool.or_true, Bool.true_or]

/-- A text without the marks of a location. -/
def Unmarked (cs : List Char) : Prop := ∀ c ∈ cs, isLocationMark c = false

theorem unmarked_of_component {cs : List Char} (h : ∀ c ∈ cs, isComponentChar c = true) :
    Unmarked cs := fun c hc => (isComponentChar_cases (h c hc)).1

theorem unmarked_of_plain {cs : List Char} (h : ∀ c ∈ cs, Host.isPlain c = true) : Unmarked cs :=
  unmarked_of_component fun c hc => isComponentChar_of_isPlain (h c hc)

theorem unmarked_digits (n : Nat) : Unmarked (toString n).toList :=
  unmarked_of_component fun c hc => isComponentChar_of_isDigit (isDigit_toString c hc)

/-- What stands in a text without marks is none of them. -/
theorem Unmarked.ne {cs : List Char} (h : Unmarked cs) {c : Char} (hc : c ∈ cs) {mark : Char}
    (hmark : isLocationMark mark = true) : c ≠ mark := by
  rintro rfl
  rw [h c hc] at hmark
  cases hmark

theorem Unmarked.visible {cs : List Char} (h : Unmarked cs) : ∀ c ∈ cs, ' ' < c := by
  intro c hc
  have hmark := h c hc
  rw [isLocationMark, Bool.or_eq_false_iff, decide_eq_false_iff_not] at hmark
  exact Nat.lt_of_not_le hmark.1

theorem Unmarked.endsMachine {cs : List Char} (h : Unmarked cs) :
    ∀ c ∈ cs, Family.other.endsMachine c = false := by
  intro c hc
  have hslash : (c == '/') = false := beq_eq_false_iff_ne.2 (h.ne hc (by decide))
  have hquestion : (c == '?') = false := beq_eq_false_iff_ne.2 (h.ne hc (by decide))
  have hfragment : (c == '#') = false := beq_eq_false_iff_ne.2 (h.ne hc (by decide))
  have hother : (Family.other != Family.other) = false := by decide
  rw [Family.endsMachine, Family.isSlash, hslash, hquestion, hfragment, hother, Bool.and_false]
  rfl

/-! ## §2. Cutting a location into its parts -/

namespace Location

/-- A location is read as it stands if nothing in it is a blank or a control. -/
theorem cleaned_eq_self {cs : List Char} (h : ∀ c ∈ cs, ' ' < c) : cleaned cs = cs := by
  have hstart (ds : List Char) (hds : ∀ c ∈ ds, ' ' < c) : ds.dropWhile (· ≤ ' ') = ds := by
    cases ds with
    | nil => rfl
    | cons c rest =>
      refine List.dropWhile_cons_of_neg ?_
      rw [decide_eq_true_eq]
      exact Nat.not_le_of_lt (hds c List.mem_cons_self)
  have hend : dropEndWhile (· ≤ ' ') cs = cs := by
    unfold dropEndWhile
    rw [hstart _ fun c hc => h c (List.mem_reverse.1 hc), List.reverse_reverse]
  unfold cleaned
  rw [hstart cs h, hend, List.filter_eq_self]
  intro c hc
  -- what is dropped inside of a location are controls
  have hne {control : Char} (hcontrol : control < ' ') : (c != control) = true := by
    rw [bne_iff_ne]
    rintro rfl
    exact absurd (h c hc) (Nat.not_lt_of_lt hcontrol)
  rw [hne (by decide), hne (by decide), hne (by decide)]
  rfl

end Location

/-- What stands in front of the last `@` and what stands behind it. -/
theorem splitCredentials_eq (credentials : List Char) {machine : List Char}
    (h : ∀ c ∈ machine, c ≠ '@') :
    splitCredentials (credentials ++ '@' :: machine) = (some credentials, machine) := by
  have hmachine : ((credentials ++ '@' :: machine).reverse.takeWhile (· != '@')).reverse
      = machine := by
    rw [List.reverse_append, List.reverse_cons, List.append_assoc, List.singleton_append,
      takeWhile_upto (fun c hc => bne_iff_ne.2 (h c (List.mem_reverse.1 hc))) (by decide),
      List.reverse_reverse]
  unfold splitCredentials
  simp only [hmachine, List.length_append, List.length_cons]
  rw [if_neg (by omega), show credentials.length + (machine.length + 1) - machine.length - 1
    = credentials.length by omega, List.take_left]

/-- The machine ends at the first colon where no bracket is open. -/
theorem splitPort_eq {machine : List Char} (h : ∀ c ∈ machine, c ≠ ':' ∧ c ≠ '[')
    (port : List Char) : splitPort false (machine ++ ':' :: port) = (machine, ':' :: port) := by
  induction machine with
  | nil => rfl
  | cons c rest ih =>
    obtain ⟨hcolon, hbracket⟩ := h c List.mem_cons_self
    have hc : (c == ':' && !false) = false := by
      rw [beq_eq_false_iff_ne.2 hcolon]
      rfl
    have hopen : (c == '[' || (false && c != ']')) = false := by
      rw [beq_eq_false_iff_ne.2 hbracket]
      rfl
    rw [List.cons_append, splitPort, hc, hopen, ih fun x hx => h x (List.mem_cons_of_mem _ hx)]
    rfl

/-- A port is read back from its digits; only the web has ports by default. -/
theorem port?_eq {n : Nat} (h : n ≤ bound16) :
    port? .other (':' :: (toString n).toList) = some (some n, []) := by
  simp only [port?, takeWhile_all isDigit_toString, dropWhile_all isDigit_toString,
    digitsValue_toString, List.isEmpty_nil, Bool.true_or, if_true]
  rw [if_neg (Nat.not_lt.2 h), List.isEmpty_eq_false_iff.2 (toString_ne_nil n)]
  rfl

/-! ## §3. Machines -/

/-- Who connects and the password, the machine and its port, between their marks. -/
def authority (user password machine : List Char) (port : Nat) : List Char :=
  (user ++ ':' :: password) ++ '@' :: (machine ++ ':' :: (toString port).toList)

section

variable {user password machine : List Char} {port : Nat}
  (huser : ∀ c ∈ user, isComponentChar c = true)
  (hpassword : ∀ c ∈ password, isComponentChar c = true)
  (hmachine : ∀ c ∈ machine, Host.isPlain c = true)
include huser hpassword hmachine

/-- What stands in front of the path does not end the machine. -/
theorem endsMachine_authority :
    ∀ c ∈ authority user password machine port, Family.other.endsMachine c = false := by
  unfold authority
  simp only [List.forall_mem_append, List.forall_mem_cons]
  exact ⟨⟨(unmarked_of_component huser).endsMachine, by decide,
    (unmarked_of_component hpassword).endsMachine⟩, by decide,
    (unmarked_of_plain hmachine).endsMachine, by decide, (unmarked_digits port).endsMachine⟩

/-- It is read as it stands. -/
theorem visible_authority : ∀ c ∈ authority user password machine port, ' ' < c := by
  unfold authority
  simp only [List.forall_mem_append, List.forall_mem_cons]
  exact ⟨⟨(unmarked_of_component huser).visible, by decide,
    (unmarked_of_component hpassword).visible⟩, by decide,
    (unmarked_of_plain hmachine).visible, by decide, (unmarked_digits port).visible⟩

/-- **Credentials, machine and port are found as they are written.** -/
theorem ofMachine?_spelled (hne : machine ≠ []) (hport : port ≤ bound16) (scheme : List Char)
    (below : List Char) :
    Location.ofMachine? scheme .other (authority user password machine port ++ '/' :: below)
      = some {
        scheme, user, password
        host := some (.name machine)
        port := some port
        path := pathOf (resolved (segmentsOf .other (Location.hierarchy ('/' :: below))))
        query := Location.queryOf ('/' :: below) } := by
  have hslash : (! Family.other.endsMachine '/') = false := by decide
  have hbefore : ∀ c ∈ authority user password machine port,
      (! Family.other.endsMachine c) = true := by
    intro c hc
    rw [endsMachine_authority huser hpassword hmachine c hc]
    rfl
  -- the machine and its port hold no `@`, and the user and the machine no colon
  have hcut : splitCredentials (authority user password machine port)
      = (some (user ++ ':' :: password), machine ++ ':' :: (toString port).toList) := by
    refine splitCredentials_eq _ (List.forall_mem_append.2 ⟨fun c hc => ?_, ?_⟩)
    · exact (unmarked_of_plain hmachine).ne hc (by decide)
    · refine List.forall_mem_cons.2 ⟨by decide, fun c hc => ?_⟩
      exact (unmarked_digits port).ne hc (by decide)
  have huntil : ∀ c ∈ user, (c != ':') = true := fun c hc =>
    bne_iff_ne.2 ((unmarked_of_component huser).ne hc (by decide))
  have hsplit : splitPort false (machine ++ ':' :: (toString port).toList)
      = (machine, ':' :: (toString port).toList) := splitPort_eq (fun c hc =>
    ⟨(unmarked_of_plain hmachine).ne hc (by decide),
      (unmarked_of_plain hmachine).ne hc (by decide)⟩) _
  have hnamed : (Host.name machine == Host.name []) = false := by
    rw [beq_eq_false_iff_ne, ne_eq, Host.name.injEq]
    exact hne
  have hgiven : (some (user ++ ':' :: password) == some ([] : List Char)) = false := by
    rw [beq_eq_false_iff_ne, ne_eq, Option.some.injEq]
    exact List.append_ne_nil_of_right_ne_nil _ (List.cons_ne_nil _ _)
  have hcolon : (':' != ':') = false := by decide
  have hkept {text : List Char} (htext : ∀ c ∈ text, isComponentChar c = true) :
      encode isCredentialEscaped text = text :=
    encode_eq_self fun c hc => (isComponentChar_cases (htext c hc)).2.1
  unfold Location.ofMachine?
  rw [takeWhile_upto hbefore hslash, dropWhile_upto hbefore hslash, hcut]
  simp only [hgiven, Bool.false_and, Bool.false_eq_true, if_false, if_true, Option.getD_some,
    beq_self_eq_true, takeWhile_upto huntil hcolon, dropWhile_upto huntil hcolon, List.drop_one,
    List.tail_cons, List.nil_append, hsplit, hnamed, Host.ofOpaque?_plain hmachine,
    Option.bind_eq_bind, Option.bind_some, Option.pure_def, port?_eq hport, hkept huser,
    hkept hpassword]

end

/-! ## §4. Steps -/

/-- A name inside of a path leads there, unless it is a step. -/
theorem resolved_single (segment : List Char) :
    resolved [segment] = if isUp segment || isHere segment then [[]] else [segment] := by
  have hwalk : walk [] segment
      = if isUp segment then [] else if isHere segment then [] else [segment] := rfl
  show (arrive [] segment).reverse = _
  unfold arrive
  rw [hwalk]
  cases hup : isUp segment <;> cases hhere : isHere segment <;> rfl

theorem capitalDigit_eq : ∀ n ∈ List.range 16, (capitalDigit n = '2' → n = 2) ∧
    capitalDigit n ≠ 'e' ∧ (capitalDigit n = 'E' → n = 14) := by decide +kernel

/-- The escape of any byte but a point does not spell a point. -/
theorem points_escape {b : UInt8} (hb : b ≠ 0x2E) (rest : List Char) :
    points (escape b ++ rest) = none := by
  have hlt := b.toNat_lt
  have hhigh := capitalDigit_eq (b.toNat / 16) (List.mem_range.2 (by omega))
  have hlow := capitalDigit_eq (b.toNat % 16) (List.mem_range.2 (by omega))
  have hbytes (h2 : b.toNat / 16 = 2) (h14 : b.toNat % 16 = 14) : False :=
    hb (UInt8.toNat_inj.1 (show b.toNat = 46 by omega))
  show points ('%' :: capitalDigit (b.toNat / 16) :: capitalDigit (b.toNat % 16) :: rest) = none
  unfold points
  -- a point is spelled by itself, or by the two digits of its number
  split
  · rename_i heq
    cases heq
  · rename_i heq
    injection heq with hpercent
    cases hpercent
  · rename_i heq
    injection heq with _ heq
    injection heq with _ heq
    injection heq with heq
    exact absurd heq hlow.2.1
  · rename_i heq
    injection heq with _ heq
    injection heq with htwo heq
    injection heq with heq
    exact (hbytes (hhigh.1 htwo) (hlow.2.2 heq)).elim
  · rfl

/-- What is neither a point nor an escape does not spell a point. -/
theorem points_plain {c : Char} (hpoint : c ≠ '.') (hmark : c ≠ '%') (rest : List Char) :
    points (c :: rest) = none := by
  unfold points
  split
  · rename_i heq
    cases heq
  · rename_i heq
    exact absurd (List.cons.inj heq).1 hpoint
  · rename_i heq
    exact absurd (List.cons.inj heq).1 hmark
  · rename_i heq
    exact absurd (List.cons.inj heq).1 hmark
  · rfl

theorem bytes_ne_nil (c : Char) : Utf8.bytes [c] ≠ [] := by
  rw [Utf8.bytes, List.flatMap_cons, List.flatMap_nil, List.append_nil]
  exact String.utf8EncodeChar_ne_nil

/-- No other character is written with the byte of a point in front. -/
theorem bytes_point {c : Char} (h : c ≠ '.') {b : UInt8} {bs : List UInt8}
    (hbytes : Utf8.bytes [c] = b :: bs) : b ≠ 0x2E := by
  rintro rfl
  have hnat {n : Nat} {tail : List UInt8} (hcons : UInt8.ofNat n :: tail = 0x2E :: bs) :
      n % 256 = 46 := by
    have htoNat := congrArg UInt8.toNat (List.cons.inj hcons).1
    rwa [UInt8.toNat_ofNat'] at htoNat
  rw [Utf8.bytes, List.flatMap_cons, List.flatMap_nil, List.append_nil, String.utf8EncodeChar]
    at hbytes
  split at hbytes
  · -- one byte: the character itself
    have hmod := hnat hbytes
    exact h (Char.toNat_inj.1 (show c.val.toNat = 46 by omega))
  · -- the front byte of a longer character is large
    split at hbytes
    · have hmod := hnat hbytes
      omega
    · split at hbytes <;> have hmod := hnat hbytes <;> omega

/-- **An escaped name spells points only where the name consists of them.** -/
theorem points_component (name : List Char) (n : Nat) :
    points (component name) = some n ↔ name = List.replicate n '.' := by
  induction name generalizing n with
  | nil =>
    show some 0 = some n ↔ _
    cases n <;> simp [List.replicate_succ]
  | cons c rest ih =>
    unfold component
    rw [encode_cons, ← component]
    by_cases hpoint : c = '.'
    · subst hpoint
      show (points (component rest)).map (· + 1) = some n ↔ _
      rw [Option.map_eq_some_iff]
      cases n with
      | zero => simp
      | succ n => simp [ih, List.replicate_succ]
    · -- any other character is written as it is or escaped, and spells no point
      have hleft : points ((if (!isUnreserved c) = true then (Utf8.bytes [c]).flatMap escape
          else [c]) ++ component rest) = none := by
        split
        · obtain ⟨b, bs, hbytes⟩ := List.exists_cons_of_ne_nil (bytes_ne_nil c)
          rw [hbytes, List.flatMap_cons, List.append_assoc]
          exact points_escape (bytes_point hpoint hbytes) _
        · rename_i hplain
          exact points_plain hpoint (by rintro rfl; exact hplain rfl) _
      rw [hleft]
      cases n with
      | zero => simp
      | succ n => simp [List.replicate_succ, hpoint]

/-! ## §5. Paths and queries -/

/-- How a location asks for encrypted connections. -/
def tlsQuery (tls : Bool) : List Char := if tls then "?sslmode=require".toList else []

section

variable {name : List Char} (h : Unmarked name) (tls : Bool)
include h

theorem notAsked : ∀ c ∈ '/' :: name, (c != '?' && c != '#') = true := by
  refine List.forall_mem_cons.2 ⟨by decide, fun c hc => ?_⟩
  rw [bne_iff_ne.2 (h.ne hc (by decide)), bne_iff_ne.2 (h.ne hc (by decide))]
  rfl

theorem hierarchy_below :
    Location.hierarchy ('/' :: (name ++ tlsQuery tls)) = '/' :: name := by
  rw [← List.cons_append]
  unfold Location.hierarchy
  cases tls with
  | false => rw [tlsQuery, if_neg Bool.false_ne_true, List.append_nil, takeWhile_all (notAsked h)]
  | true => exact takeWhile_upto (c := '?') (notAsked h) (by decide) _

theorem queryOf_below :
    Location.queryOf ('/' :: (name ++ tlsQuery tls)) = (tlsQuery tls).drop 1 := by
  rw [← List.cons_append]
  unfold Location.queryOf
  cases tls with
  | false =>
    rw [tlsQuery, if_neg Bool.false_ne_true, List.append_nil, dropWhile_all (notAsked h)]
    rfl
  | true =>
    have hquery : tlsQuery true = '?' :: "sslmode=require".toList := rfl
    rw [hquery, dropWhile_upto (notAsked h) (by decide)]
    decide

/-- A name without marks is one segment. -/
theorem segmentsOf_below (hescaped : ∀ c ∈ name, isPathEscaped c = false) :
    segmentsOf .other ('/' :: name) = [name] := by
  have hslash (c : Char) (hc : c ∈ name) : Family.other.isSlash c = false := by
    have hends := h.endsMachine c hc
    rw [Family.endsMachine, Bool.or_eq_false_iff, Bool.or_eq_false_iff] at hends
    exact hends.1.1
  have hsplit : name.splitOnP Family.other.isSlash = [name] :=
    List.splitOnP_eq_singleton hslash
  show (name.splitOnP Family.other.isSlash).map (encode isPathEscaped) = [name]
  rw [hsplit, List.map_singleton, encode_eq_self hescaped]

end

/-! ## §6. Locations -/

/-- The scheme of a database. -/
def databaseScheme : List Char := "postgresql".toList

/-- The location of a database: credentials, machine and port, the name of the database, and
    whether connections are to be encrypted. -/
def spelled (user password machine : List Char) (port : Nat) (name : List Char) (tls : Bool) :
    List Char :=
  databaseScheme ++ ':' :: '/' :: '/' ::
    (authority user password machine port ++ '/' :: (name ++ tlsQuery tls))

/-- The path to a name: nowhere, if the name is a step. -/
def pathTo (name : List Char) : List Char :=
  if isUp name || isHere name then ['/'] else '/' :: name

theorem scheme?_database (rest : List Char) :
    scheme? (databaseScheme ++ ':' :: rest) = some (databaseScheme, rest) := by
  have hscheme : ∀ c ∈ databaseScheme, isSchemeChar c = true := List.all_eq_true.1 (by decide)
  have hcolon : isSchemeChar ':' = false := by decide
  unfold scheme?
  rw [takeWhile_upto hscheme hcolon, dropWhile_upto hscheme hcolon]
  have hletter : databaseScheme.head?.any Char.isAlpha = true := by decide
  have hsmall : databaseScheme.map Char.toLower = databaseScheme := by decide +kernel
  simp only [hletter, hsmall, if_true]

section

variable {user password machine name : List Char} {port : Nat}
  (huser : ∀ c ∈ user, isComponentChar c = true)
  (hpassword : ∀ c ∈ password, isComponentChar c = true)
  (hmachine : ∀ c ∈ machine, Host.isPlain c = true)
  (hname : ∀ c ∈ name, isComponentChar c = true)
include huser hpassword hmachine hname

theorem visible_spelled (tls : Bool) :
    ∀ c ∈ spelled user password machine port name tls, ' ' < c := by
  have hquery : ∀ c ∈ tlsQuery tls, ' ' < c := forall_of_all (by cases tls <;> decide)
  have hscheme : ∀ c ∈ databaseScheme, ' ' < c := forall_of_all (by decide)
  unfold spelled
  simp only [List.forall_mem_append, List.forall_mem_cons]
  exact ⟨hscheme, by decide, by decide, by decide,
    visible_authority huser hpassword hmachine, by decide,
    (unmarked_of_component hname).visible, hquery⟩

/-- **What a location of parts is read as**: every part as it is written, but for a name that is
    a step. -/
theorem ofChars?_spelled (hne : machine ≠ []) (hport : port ≤ bound16) (tls : Bool) :
    Location.ofChars? (spelled user password machine port name tls)
      = some {
        scheme := databaseScheme, user, password
        host := some (.name machine)
        port := some port
        path := pathTo name
        query := (tlsQuery tls).drop 1 } := by
  have hfamily : Family.ofScheme (String.ofList databaseScheme) = .other := by decide +kernel
  have hunmarked := unmarked_of_component hname
  -- a name that is a step leads nowhere
  have hpath : pathOf (resolved (segmentsOf .other
      (Location.hierarchy ('/' :: (name ++ tlsQuery tls))))) = pathTo name := by
    rw [hierarchy_below hunmarked, segmentsOf_below hunmarked fun c hc =>
      (isComponentChar_cases (hname c hc)).2.2, resolved_single, pathTo]
    split
    · rfl
    · exact List.append_nil _
  unfold Location.ofChars?
  rw [Location.cleaned_eq_self (visible_spelled huser hpassword hmachine hname tls), spelled,
    scheme?_database]
  simp only [Option.bind_eq_bind, Option.bind_some, hfamily]
  rw [ofMachine?_spelled huser hpassword hmachine hne hport, hpath, queryOf_below hunmarked]

end

end ScriptGate.Setting
