/-
  ScriptGate.Setting.Location — where something is to be found: a URL.

  A location has a scheme, perhaps credentials, a machine and a port, a path and a query.  On the
  web a backslash counts as a slash, and the port that a scheme has by default is left out; a file
  has no credentials and no port; any other location keeps its machine as it is written.  Steps
  up and here are taken out of the path.

  Locations are read as the library `url` documents it, by the rules of the URL Standard for a text
  that stands by itself: what is stripped from around and inside it, the special schemes with their
  default ports, where credentials, machine, port, path and query end, which characters each of
  them escapes, and which texts are refused.  Credentials stay escaped.  The fragment is not kept,
  and the path and the query of a location without a machine are kept as they are written: the tool
  looks at neither.
  Main statements:
    - `resolved_noDots` — a resolved path has no steps up and no steps here.
-/
import ScriptGate.Setting.Host
import ScriptGate.Text.Trim

namespace ScriptGate.Setting

open ScriptGate.Text

/-! ## §1. Schemes -/

/-- Families of schemes. -/
inductive Family where
  /-- on the web, with the port by default -/
  | web (port : Nat)
  /-- files -/
  | file
  /-- anything else -/
  | other
deriving DecidableEq, Repr

namespace Family

/-- The family of a scheme. -/
def ofScheme (scheme : String) : Family :=
  match scheme with
  | "http" | "ws" => web 80
  | "https" | "wss" => web 443
  | "ftp" => web 21
  | "file" => file
  | _ => other

/-- A slash, or what counts as one. -/
def isSlash (f : Family) (c : Char) : Bool := c == '/' || (c == '\\' && f != other)

/-- A character in front of which the machine and its port end. -/
def endsMachine (f : Family) (c : Char) : Bool := f.isSlash c || c == '?' || c == '#'

end Family

/-- A character that a scheme goes on with. -/
def isSchemeChar (c : Char) : Bool := c.isAlphanum || c == '+' || c == '-' || c == '.'

/-- The scheme in front of the first colon, and what follows. -/
def scheme? (cs : List Char) : Option (List Char × List Char) :=
  let scheme := cs.takeWhile isSchemeChar
  match cs.dropWhile isSchemeChar with
  | ':' :: rest =>
    if scheme.head?.any Char.isAlpha then some (scheme.map Char.toLower, rest) else none
  | _ => none

/-! ## §2. Paths -/

/-- A character that a path escapes. -/
def isPathEscaped (c : Char) : Bool := Host.isEscaped c || " \"#<>?\x60\x7b\x7d".toList.contains c

/-- The points that a segment spells, escaped or not. -/
def points : List Char → Option Nat
  | [] => some 0
  | '.' :: rest => (points rest).map (· + 1)
  | '%' :: '2' :: 'e' :: rest | '%' :: '2' :: 'E' :: rest => (points rest).map (· + 1)
  | _ => none

/-- A step up? -/
def isUp (segment : List Char) : Bool := points segment == some 2

/-- A step that stays here? -/
def isHere (segment : List Char) : Bool := points segment == some 1

/-- Does a segment start like the name of a drive? -/
def isDriveLike : List Char → Bool
  | c :: d :: rest =>
    c.isAlpha && (d == ':' || d == '|') && (rest.isEmpty || rest.head? == some '\\')
  | _ => false

/-- The name of a drive? -/
def isDrive (segment : List Char) : Bool := segment.length == 2 && isDriveLike segment

/-- One step up; a drive is never left. -/
def parent : List (List Char) → List (List Char)
  | [] => []
  | top :: rest => if isDriveLike top then top :: rest else rest

/-- Walks into a segment; the innermost one comes first. -/
def walk (within : List (List Char)) (segment : List Char) : List (List Char) :=
  if isUp segment then parent within
  else if isHere segment then within
  else segment :: within

/-- Ends a walk: behind a step up or here, the path ends with a slash. -/
def arrive (within : List (List Char)) (segment : List Char) : List (List Char) :=
  if isUp segment || isHere segment then [] :: walk within segment else segment :: within

/-- The segments without steps up and steps here. -/
def resolved (segments : List (List Char)) : List (List Char) :=
  match segments.getLast? with
  | some last => (arrive (segments.dropLast.foldl walk []) last).reverse
  | none => []

/-- Does the path lead to a drive? -/
def meetsDrive (within : List (List Char)) : List (List Char) → Bool
  | [] => false
  | s :: rest => (within.isEmpty && isDrive s) || meetsDrive (walk within s) rest

/-- The segments as they are written. -/
def segmentsOf (f : Family) (cs : List Char) : List (List Char) :=
  let below := if cs.head?.any f.isSlash then cs.drop 1 else cs
  (below.splitOnP f.isSlash).map (Percent.encode isPathEscaped)

/-- The path of these segments. -/
def pathOf (segments : List (List Char)) : List Char := segments.flatMap ('/' :: ·)

/-! ## §3. Machines -/

/-- The machine and, behind a colon outside of brackets, the rest. -/
def splitPort (inBrackets : Bool) : List Char → List Char × List Char
  | [] => ([], [])
  | c :: rest =>
    if c == ':' && !inBrackets then ([], c :: rest)
    else
      let (machine, port) := splitPort (c == '[' || (inBrackets && c != ']')) rest
      (c :: machine, port)

/-- The port behind a colon, and the text behind its digits; a default port is left out. -/
def port? (f : Family) : List Char → Option (Option Nat × List Char)
  | ':' :: cs =>
    let ds := cs.takeWhile Char.isDigit
    let rest := cs.dropWhile Char.isDigit
    let port := digitsValue 10 ds
    if rest.isEmpty || rest.head? == some '\\' then
      if bound16 < port then none
      else some (if ds.isEmpty || f == .web port then none else some port, rest)
    else none
  | rest => some (none, rest)

/-- A character that credentials escape. -/
def isCredentialEscaped (c : Char) : Bool := isPathEscaped c || "/:;=@[\\]^|".toList.contains c

/-- What stands in front of the last `@`, if there is one, and what stands behind it. -/
def splitCredentials (cs : List Char) : Option (List Char) × List Char :=
  let machine := (cs.reverse.takeWhile (· != '@')).reverse
  if machine.length = cs.length then (none, cs)
  else (some (cs.take (cs.length - machine.length - 1)), machine)

/-! ## §4. Locations -/

/-- A location. -/
structure Location where
  /-- the scheme, in small letters -/
  scheme : List Char
  /-- who asks, escaped; may be empty -/
  user : List Char
  /-- the password, escaped; may be empty -/
  password : List Char
  /-- the machine, if there is one -/
  host : Option Host
  /-- the port, if it is not the default -/
  port : Option Nat
  /-- the path, escaped -/
  path : List Char
  /-- the query, as it is written -/
  query : List Char
deriving DecidableEq, Repr

namespace Location

/-- What stands before the query and the fragment. -/
def hierarchy (cs : List Char) : List Char := cs.takeWhile fun c => c != '?' && c != '#'

/-- The query: behind a question mark, before a fragment. -/
def queryOf (cs : List Char) : List Char :=
  match cs.dropWhile fun c => c != '?' && c != '#' with
  | '?' :: rest => rest.takeWhile (· != '#')
  | _ => []

/-- A location without a machine. -/
def placeless (scheme cs : List Char) : Location :=
  ⟨scheme, [], [], none, none, hierarchy cs, queryOf cs⟩

/-- Reads what stands behind the slashes in front of a machine. -/
def ofMachine? (scheme : List Char) (f : Family) (cs : List Char) : Option Location := do
  let (credentials, named) := splitCredentials (cs.takeWhile (! f.endsMachine ·))
  let rest := cs.dropWhile (! f.endsMachine ·)
  if credentials == some [] && named.isEmpty && !rest.isEmpty then none
  let given := credentials.getD []
  let user := given.takeWhile (· != ':')
  let password := (given.dropWhile (· != ':')).drop 1
  let (machine, behind) := splitPort false named
  let host ← if f == .other then Host.ofOpaque? machine else Host.ofWeb? machine
  let isNameless := host == .name []
  if isNameless && (!behind.isEmpty || !user.isEmpty || !password.isEmpty) then none
  let (port, below) ← port? f behind
  return {
    scheme, port
    user := Percent.encode isCredentialEscaped user
    password := Percent.encode isCredentialEscaped password
    host := if isNameless then none else some host
    path := pathOf (resolved (segmentsOf f (hierarchy (below ++ rest))))
    query := queryOf rest }

/-- Reads what stands behind the two slashes of a file; the machine itself, and a drive on any
    machine, are named without a machine. -/
def ofFile? (scheme cs : List Char) : Option Location := do
  let machine := cs.takeWhile (! Family.file.endsMachine ·)
  if machine.isEmpty || isDrive machine then return placeless scheme cs
  let host ← Host.ofWeb? machine
  let segments := segmentsOf .file (hierarchy (cs.drop machine.length))
  if host == .name "localhost".toList || meetsDrive [] segments then
    return placeless scheme (cs.drop machine.length)
  return ⟨scheme, [], [], some host, none, pathOf (resolved segments), queryOf cs⟩

/-- Without blanks and controls around it, and without line ends and tabs inside. -/
def cleaned (cs : List Char) : List Char :=
  (dropEndWhile (· ≤ ' ') (cs.dropWhile (· ≤ ' '))).filter fun c =>
    c != '\t' && c != '\n' && c != '\r'

/-- Reads a location. -/
def ofChars? (cs : List Char) : Option Location := do
  let (scheme, rest) ← scheme? (cleaned cs)
  match Family.ofScheme (String.ofList scheme) with
  | .web port => ofMachine? scheme (.web port) (rest.dropWhile (Family.web port).isSlash)
  | .file =>
    if 2 ≤ (rest.takeWhile Family.file.isSlash).length then ofFile? scheme (rest.drop 2)
    else return placeless scheme rest
  | .other =>
    match rest with
    | '/' :: '/' :: cs => ofMachine? scheme .other cs
    | _ => return placeless scheme rest

end Location

/-! ## §5. Resolved paths -/

/-- Neither a step up nor a step here. -/
def isPlace (segment : List Char) : Bool := !isUp segment && !isHere segment

theorem parent_subset {within : List (List Char)} {s : List Char} (h : s ∈ parent within) :
    s ∈ within := by
  match within with
  | [] => exact h
  | top :: rest =>
    rw [parent] at h
    split at h
    · exact h
    · exact List.mem_cons_of_mem _ h

theorem walk_places {within : List (List Char)} (h : ∀ s ∈ within, isPlace s = true)
    (segment : List Char) : ∀ s ∈ walk within segment, isPlace s = true := by
  intro s hs
  simp only [walk] at hs
  split at hs
  · exact h s (parent_subset hs)
  · rename_i hup
    split at hs
    · exact h s hs
    · rename_i hhere
      rcases List.mem_cons.1 hs with rfl | hs
      · simp [isPlace, hup, hhere]
      · exact h s hs

theorem foldl_walk_places (segments within : List (List Char))
    (h : ∀ s ∈ within, isPlace s = true) :
    ∀ s ∈ segments.foldl walk within, isPlace s = true := by
  induction segments generalizing within with
  | nil => exact h
  | cons s rest ih => exact ih _ (walk_places h s)

/-- A resolved path has no steps up and no steps here. -/
theorem resolved_noDots (segments : List (List Char)) :
    ∀ s ∈ resolved segments, isPlace s = true := by
  intro s hs
  rw [resolved] at hs
  split at hs
  · rename_i last _
    have hin := foldl_walk_places segments.dropLast [] (by simp)
    rw [List.mem_reverse, arrive] at hs
    split at hs
    · rcases List.mem_cons.1 hs with rfl | hs
      · rfl
      · exact walk_places hin last s hs
    · rename_i hdots
      rcases List.mem_cons.1 hs with rfl | hs
      · simpa [isPlace] using hdots
      · exact hin s hs
  · exact absurd hs (by simp)

end ScriptGate.Setting
