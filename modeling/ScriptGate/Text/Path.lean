/-
  ScriptGate.Text.Path — paths of files.
-/

namespace ScriptGate.Text.Path

/-- Does the path start at the root? -/
def isAbsolute (path : List Char) : Bool := path.head? == some '/'

/-- What stands between a directory and a name below it. -/
def separator (dir : List Char) : List Char :=
  if dir.isEmpty || dir.getLast? == some '/' then [] else ['/']

/-- A path seen from a directory. -/
def join (dir name : List Char) : List Char :=
  if isAbsolute name then name else dir ++ separator dir ++ name

end ScriptGate.Text.Path
