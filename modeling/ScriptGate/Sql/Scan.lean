/-
  ScriptGate.Sql.Scan — cutting an SQL text into tokens.

  Every reader below takes the text ahead and returns what it read together with the text behind
  it, or nothing when the text breaks off inside a literal, a quoted name or a comment: then the
  whole text has no tokens.
  Main statements:
    - `quotedText_length`  — a quoted text ends inside the text it was read from;
    - `scan_nil`           — an empty text has no tokens.
-/
import ScriptGate.Sql.Token
import ScriptGate.Text.Digit

namespace ScriptGate.Sql

open ScriptGate.Text

/-! ## §1. Code points -/

/-- The character with this code point; surrogates have none. -/
def charOf? (n : Nat) : Option Char := if n.isValidChar then some (Char.ofNat n) else none

/-! ## §2. Quoted texts -/

/-- A text up to its closing quote; a doubled quote stands for one.  With `shields` a backslash
    shields the character behind it. -/
def quotedText (quote : Char) (shields : Bool) : List Char → Option (List Char × List Char)
  | [] => none
  | c :: rest =>
    if c == quote then
      match rest with
      | d :: behind =>
        if d == quote then (quotedText quote shields behind).map fun r => (c :: r.1, r.2)
        else some ([], d :: behind)
      | [] => some ([], [])
    else if shields && c == '\\' then
      match rest with
      | d :: behind => (quotedText quote shields behind).map fun r => (d :: r.1, r.2)
      | [] => none
    else (quotedText quote shields rest).map fun r => (c :: r.1, r.2)

/-- A quoted text ends inside the text it was read from. -/
theorem quotedText_length (quote : Char) (shields : Bool) (cs : List Char)
    {r : List Char × List Char} (h : quotedText quote shields cs = some r) :
    r.2.length < cs.length := by
  fun_induction quotedText quote shields cs generalizing r <;>
    simp_all only [Option.map_eq_some_iff, List.length_cons, reduceCtorEq, Option.some.injEq]
  · rename_i ih
    obtain ⟨a, ha, rfl⟩ := h
    have := ih ha
    simp only; omega
  · subst h; simp
  · subst h; simp
  · rename_i ih
    obtain ⟨a, ha, rfl⟩ := h
    have := ih ha
    simp only; omega
  · rename_i ih
    obtain ⟨a, ha, rfl⟩ := h
    have := ih ha
    simp only; omega

/-- The text behind three closing quotes in a row, `run` of which have just been read. -/
def afterTriple (quote : Char) (run : Nat) : List Char → Option (List Char)
  | [] => none
  | c :: rest =>
    if c == quote then
      if run == 2 then some rest else afterTriple quote (run + 1) rest
    else afterTriple quote 0 rest

/-- A raw text behind its opening quote.  A second quote closes an empty text; a third opens one
    in which single quotes stand for themselves, up to the next three in a row. -/
def rawText (quote : Char) (cs : List Char) : Option (List Char × List Char) :=
  match (cs.take 2).takeWhile (· == quote) with
  | [] => quotedText quote false cs
  | [_] => some ([], cs.drop 1)
  | _ =>
    let body := cs.drop 2
    (afterTriple quote 0 body).map fun rest => (body.take (body.length - rest.length - 3), rest)

/-- A code point of exactly `n` hexadecimal digits; a plus sign may stand for the first. -/
def codePoint (n : Nat) (cs : List Char) : Option (Char × List Char) :=
  let ds := cs.take n
  let ds' := if ds.head? == some '+' && 1 < n then ds.drop 1 else ds
  if ds.length == n && ds'.all isHexDigit then
    (charOf? (digitsValue 16 ds')).map fun c => (c, cs.drop n)
  else none

/-- A byte by its digits: only those of ASCII are characters of their own. -/
def byteOf? (base : Nat) (ds : List Char) : Option Char :=
  let n := digitsValue base ds % 256
  if n < 128 then charOf? n else none

/-- What stands behind a backslash of an escape string.  No escape may give the zero
    character. -/
def escapeSequence : List Char → Option (Char × List Char)
  | [] => none
  | c :: rest =>
    let reading :=
      match c with
      | 'b' => some ('\x08', rest)
      | 'f' => some ('\x0c', rest)
      | 'n' => some ('\n', rest)
      | 'r' => some ('\r', rest)
      | 't' => some ('\t', rest)
      | 'u' => codePoint 4 rest
      | 'U' => codePoint 8 rest
      | 'x' =>
        match (rest.take 2).takeWhile isHexDigit with
        | [] => some ('x', rest)
        | ds => (byteOf? 16 ds).map fun b => (b, rest.drop ds.length)
      | _ =>
        if isOctalDigit c then
          let ds := (rest.take 2).takeWhile isOctalDigit
          (byteOf? 8 (c :: ds)).map fun b => (b, rest.drop ds.length)
        else some (c, rest)
    reading.filter fun r => r.1 != '\x00'

/-- An escape string behind its opening quote.  `fuel` is at least the length of the text. -/
def escapeText : Nat → List Char → Option (List Char × List Char)
  | _, [] => none
  | 0, _ => none
  | fuel + 1, '\'' :: rest =>
    match rest with
    | '\'' :: behind => (escapeText fuel behind).map fun r => ('\'' :: r.1, r.2)
    | _ => some ([], rest)
  | fuel + 1, '\\' :: rest =>
    (escapeSequence rest).bind fun e => (escapeText fuel e.2).map fun r => (e.1 :: r.1, r.2)
  | fuel + 1, c :: rest => (escapeText fuel rest).map fun r => (c :: r.1, r.2)

/-- What stands behind a backslash of a string with code points: the backslash itself, a plus
    sign and six digits, or four digits. -/
def unicodeSequence : List Char → Option (Char × List Char)
  | '\\' :: rest => some ('\\', rest)
  | '+' :: rest => digits 6 rest
  | rest => digits 4 rest
where
  /-- A code point of exactly `n` hexadecimal digits. -/
  digits (n : Nat) (cs : List Char) : Option (Char × List Char) :=
    if (cs.take n).length == n && (cs.take n).all isHexDigit then
      (charOf? (digitsValue 16 (cs.take n))).map fun c => (c, cs.drop n)
    else none

/-- A string with code points behind its opening quote. -/
def unicodeText : Nat → List Char → Option (List Char × List Char)
  | _, [] => none
  | 0, _ => none
  | fuel + 1, '\'' :: rest =>
    match rest with
    | '\'' :: behind => (unicodeText fuel behind).map fun r => ('\'' :: r.1, r.2)
    | _ => some ([], rest)
  | fuel + 1, '\\' :: rest =>
    (unicodeSequence rest).bind fun e => (unicodeText fuel e.2).map fun r => (e.1 :: r.1, r.2)
  | fuel + 1, c :: rest => (unicodeText fuel rest).map fun r => (c :: r.1, r.2)

/-! ## §3. Comments and dollar quotes -/

/-- The text behind a bracketed comment.  Comments nest; `depth` of them are open and `last` is
    the character before. -/
def afterComment (depth : Nat) (last : Char) : List Char → Option (List Char)
  | [] => none
  | c :: rest =>
    if last == '/' && c == '*' then afterComment (depth + 1) c rest
    else if last == '*' && c == '/' then
      if depth ≤ 1 then some rest else afterComment (depth - 1) c rest
    else afterComment depth c rest

/-- The text behind the second dollar sign of a pair. -/
def afterDollars : List Char → Option (List Char)
  | '$' :: '$' :: rest => some rest
  | _ :: rest => afterDollars rest
  | [] => none

/-- The text behind a closing tag.  `open?` is the part of the tag still to come once its first
    dollar sign has been met; a character that does not fit is skipped. -/
def afterTag (tag : List Char) (open? : Option (List Char)) : List Char → Option (List Char)
  | [] => none
  | c :: rest =>
    match open? with
    | some (t :: more) => afterTag tag (if c == t then some more else none) rest
    | some [] =>
      if c == '$' then some rest else afterTag tag none rest
    | none => afterTag tag (if c == '$' then some tag else none) rest

/-- A dollar sign: a dollar quote or the name of a parameter. -/
def dollarToken (cs : List Char) : Option (Token × List Char) :=
  match cs with
  | '$' :: body => (afterDollars body).map fun rest => (literal body rest, rest)
  | _ =>
    let tag := cs.takeWhile isNameChar
    match cs.drop tag.length with
    | '$' :: body => (afterTag tag none body).map fun rest => (literal body rest, rest)
    | rest => some (.placeholder (String.ofList ('$' :: tag)), rest)
where
  /-- The literal whose body starts at `body` and whose closing delimiter ends at `rest`. -/
  literal (body rest : List Char) : Token :=
    .literal .dollar (String.ofList (body.take (body.length - rest.length)))

/-! ## §4. Numbers, words and signs -/

/-- The exponent of a number, if one follows. -/
def exponent (cs : List Char) : List Char :=
  match cs with
  | e :: rest =>
    if e == 'e' || e == 'E' then
      let sign := (rest.take 1).filter fun c => c == '+' || c == '-'
      match (rest.drop sign.length).takeWhile Char.isDigit with
      | [] => []
      | ds => e :: sign ++ ds
    else []
  | [] => []

/-- A number or a lone point. -/
def numberToken (cs : List Char) : Token × List Char :=
  let whole := cs.takeWhile Char.isDigit
  match whole, cs.drop whole.length with
  | ['0'], 'x' :: rest =>
    let ds := rest.takeWhile isHexDigit
    (.literal .hex (String.ofList ds), rest.drop ds.length)
  | _, behind =>
    let point := (behind.take 1).filter (· == '.')
    let behind := behind.drop point.length
    let fraction := behind.takeWhile Char.isDigit
    let behind := behind.drop fraction.length
    let digits := whole ++ point ++ fraction
    if digits == ['.'] then (.sign ".", behind)
    else
      let power := exponent behind
      let behind := behind.drop power.length
      let long := behind.head? == some 'L'
      (.number (String.ofList (digits ++ power)) long, if long then behind.drop 1 else behind)

/-- May a word start with this character? -/
def isWordStart (c : Char) : Bool := isAlphabetic c || c == '_'

/-- May a word go on with this character? -/
def isWordPart (c : Char) : Bool :=
  isAlphabetic c || c.isDigit || c == '@' || c == '$' || c == '#' || c == '_'

/-- A word that starts with the characters `start`, whatever these are. -/
def wordToken (start cs : List Char) : Token × List Char :=
  let more := cs.takeWhile isWordPart
  (.ofText (start ++ more), cs.drop more.length)

/-- The signs of several characters, longer ones first. -/
def longSigns : List String := [
  "!~~*", "->>", "||/", "!~*", "!~~", "<=>", "~~*", "#>>",
  "->", "//", "|/", "||", "=>", "==", "!=", "!!", "!~", "<=", "<>", "<<", "<@", ">=", ">>",
  "::", ":=", "&&", "^@", "~*", "~~", "#-", "#>", "@>", "@?"]

/-- The sign a text starts with.  Both signs for "not equal" are one token. -/
def signToken (c : Char) (rest : List Char) : Token × List Char :=
  match longSigns.find? fun s => s.toList.isPrefixOf (c :: rest) with
  | some s => (.sign (if s == "<>" then "!=" else s), rest.drop (s.length - 1))
  | none => (.sign (String.singleton c), rest)

/-- A hash or an at sign: a sign of its own before a blank or at the end, part of a longer sign,
    or else the start of a word. -/
def hashOrAtToken (c : Char) (rest : List Char) : Token × List Char :=
  match rest with
  | '@' :: d :: behind =>
    if c == '@' then
      if d == ' ' then (.sign "@@", d :: behind) else wordToken ['@', '@', d] behind
    else wordToken [c, '@'] (d :: behind)
  | ['@'] => if c == '@' then (.sign "@@", []) else wordToken [c, '@'] []
  | d :: behind =>
    if longSigns.contains (String.ofList [c, d]) then signToken c rest
    else if d == ' ' then (.sign (String.singleton c), rest)
    else wordToken [c, d] behind
  | [] => (.sign (String.singleton c), [])

/-! ## §5. Tokens -/

/-- A literal with a letter in front, if the letter at `c` opens one. -/
def markedLiteral? (c : Char) (rest : List Char) :
    Option (Option (Token × List Char)) :=
  let take (kind : LiteralKind) (r : Option (List Char × List Char)) :=
    some (r.map fun r => (Token.literal kind (String.ofList r.1), r.2))
  match c.toUpper, rest with
  | 'B', '\'' :: body => take .bytes (quotedText '\'' false body)
  | 'B', '"' :: body => take .bytes (quotedText '"' false body)
  | 'R', '\'' :: body => take .bytes (rawText '\'' body)
  | 'R', '"' :: body => take .bytes (rawText '"' body)
  | 'N', '\'' :: body => take .national (quotedText '\'' true body)
  | 'X', '\'' :: body => take .hex (quotedText '\'' true body)
  | 'E', '\'' :: body => take .escape (escapeText body.length body)
  | 'U', '&' :: '\'' :: body => take .unicode (unicodeText body.length body)
  | _, _ => none

/-- Reads one token, or the blank or comment at `c`. -/
def lexeme (c : Char) (rest : List Char) : Option (Option Token × List Char) :=
  let token (r : Token × List Char) : Option (Option Token × List Char) := some (some r.1, r.2)
  match markedLiteral? c rest with
  | some r => r.bind token
  | none =>
    if c == '\'' then
      (quotedText c false rest).bind fun r => token (.literal .plain (String.ofList r.1), r.2)
    else if c == '"' || c == '\x60' then
      (quotedText c false rest).bind fun r =>
        token (.word { text := String.ofList r.1, quote := some c }, r.2)
    else if c.isDigit || c == '.' then token (numberToken (c :: rest))
    else if c == '-' && rest.head? == some '-' then
      some (none, (rest.dropWhile (· != '\n')).drop 1)
    else if c == '/' && rest.head? == some '*' then
      (afterComment 1 ' ' (rest.drop 1)).map fun rest => (none, rest)
    else if c == '#' || c == '@' then token (hashOrAtToken c rest)
    else if c == '?' then
      token (.placeholder (String.ofList (c :: rest.takeWhile isNumeric)), rest.dropWhile isNumeric)
    else if c == '$' then (dollarToken rest).bind token
    else if isWordStart c then token (wordToken [c] rest)
    else if isBlank c then some (none, rest)
    else token (signToken c rest)

/-- The tokens of a text. -/
def scan (cs : List Char) : Option (List Token) := go cs.length cs
where
  /-- Reads on; `fuel` is at least the length of the text. -/
  go : Nat → List Char → Option (List Token)
    | _, [] => some []
    | 0, _ :: _ => none
    | fuel + 1, c :: rest =>
      match lexeme c rest with
      | none => none
      | some (none, rest) => go fuel rest
      | some (some t, rest) => (go fuel rest).map (t :: ·)

@[simp] theorem scan_nil : scan [] = some [] := rfl

end ScriptGate.Sql
