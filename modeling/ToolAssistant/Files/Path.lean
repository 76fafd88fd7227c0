/-!
# File paths

A path is what stands between the slashes of its text.  Of these parts the empty one and `.` name
nothing; the others lead from the root, or from the working directory, to a file or a directory.
How a path ends still matters: after a slash only a directory can be meant, and after `.` only one
that exists.
-/

namespace ToolAssistant

/-- A path as it is written. -/
structure FilePath where
  /-- The texts between the slashes. -/
  parts : List String
  deriving DecidableEq, Repr

namespace FilePath

/-- Reads a path. -/
def ofText (text : String) : FilePath := ⟨(text.toList.splitOn '/').map String.ofList⟩

/-- The path of the names from the root. -/
def ofPlace (names : List String) : FilePath := ⟨if names.isEmpty then ["", ""] else "" :: names⟩

/-- Does the part of a path name something? -/
def isName (part : String) : Bool := !(part == "" || part == ".")

/-- The names on the way. -/
def names (path : FilePath) : List String := path.parts.filter isName

/-- Does the path start at the root? -/
def absolute (path : FilePath) : Bool := path.parts.head? == some "" && path.parts.length != 1

/-- Is this the path that is written as nothing? -/
def isEmpty (path : FilePath) : Bool := path.parts == [""]

/-- How many bytes the path takes when it is written. -/
def byteCount (path : FilePath) : Nat :=
  (path.parts.map (·.utf8ByteSize + 1)).foldr (· + ·) 0 - 1

/-- How a path ends. -/
inductive Ending where
  | name
  | slash
  | dot
  deriving DecidableEq, Repr

/-- How the path ends. -/
def ending (path : FilePath) : Ending :=
  match path.parts.reverse.takeWhile (!isName ·) with
  | [] => .name
  | closing => if closing.contains "." then .dot else .slash

/-- The path of the directory that holds it; a path without names has none. -/
def parent? (path : FilePath) : Option FilePath :=
  match path.parts.reverse.dropWhile (!isName ·) with
  | [] => none
  | _ :: above =>
    match above.dropWhile (!isName ·) with
    | [] => some ⟨if path.absolute then ["", ""] else [""]⟩
    | above => some ⟨above.reverse⟩

end FilePath

/-- The text of a file below a directory. -/
def FilePath.joinText (directory path : String) : String :=
  if path.startsWith "/" then path
  else if directory.isEmpty || directory.endsWith "/" then directory ++ path
  else directory ++ "/" ++ path

end ToolAssistant
