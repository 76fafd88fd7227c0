import ToolAssistant.Files.Path

/-!
# Files and directories

A tree of files, and the operations on it with the ways in which they fail.  A failing operation may
have changed the tree before it failed.
-/

namespace ToolAssistant

/-- What lies under a path. -/
inductive FileNode where
  | directory
  | file (content : List UInt8)
  deriving DecidableEq

/-- Why an operation on files failed. -/
inductive FileError where
  | notFound
  | alreadyExists
  | notADirectory
  | isADirectory
  | nameTooLong
  | invalidName
  | invalidText
  deriving DecidableEq, Repr

/-- The wording of a failed operation. -/
def FileError.message : FileError → String
  | notFound => "No such file or directory (os error 2)"
  | alreadyExists => "File exists (os error 17)"
  | notADirectory => "Not a directory (os error 20)"
  | isADirectory => "Is a directory (os error 21)"
  | nameTooLong => "File name too long (os error 36)"
  | invalidName => "file name contained an unexpected NUL byte"
  | invalidText => "stream did not contain valid UTF-8"

/-- Where something lies: the names from the root. -/
abbrev Place := List String

/-- Files and directories by their places.  The root is a directory; relative paths start at the
working directory. -/
structure FileTree where
  nodes : List (Place × FileNode)
  workingDirectory : Place

namespace FileTree

/-- What lies at a place. -/
def node? (tree : FileTree) (place : Place) : Option FileNode :=
  if place.isEmpty then some .directory else tree.nodes.lookup place

/-- Puts a node at a place. -/
def put (tree : FileTree) (place : Place) (node : FileNode) : FileTree :=
  { tree with nodes := (place, node) :: tree.nodes.filter (·.1 != place) }

/-- How many bytes a name may take. -/
def nameLimit : Nat := 255

/-- How many bytes a path may take. -/
def pathLimit : Nat := 4095

/-- Goes from a directory to a name in it. -/
def enter (tree : FileTree) (place : Place) (name : String) : Except FileError Place :=
  match tree.node? place with
  | none => .error .notFound
  | some (.file _) => .error .notADirectory
  | some .directory =>
    if name = ".." then .ok place.dropLast
    else if name.utf8ByteSize > nameLimit then .error .nameTooLong
    else .ok (place ++ [name])

/-- The place of a path; only its last name need not exist. -/
def locate (tree : FileTree) (path : FilePath) : Except FileError Place :=
  if path.names.any (·.toList.contains '\x00') then .error .invalidName
  else if path.byteCount > pathLimit then .error .nameTooLong
  else if path.isEmpty then .error .notFound
  else path.names.foldlM tree.enter (if path.absolute then [] else tree.workingDirectory)

/-- What a path leads to. -/
def find (tree : FileTree) (path : FilePath) : Except FileError FileNode := do
  let place ← tree.locate path
  match tree.node? place with
  | none => .error .notFound
  | some (.file content) =>
    if path.ending = .name then .ok (.file content) else .error .notADirectory
  | some .directory => .ok .directory

/-- Does the path lead to anything? -/
def contains (tree : FileTree) (path : FilePath) : Bool :=
  (tree.find path).isOk

/-- Does the path lead to a directory? -/
def isDirectory (tree : FileTree) (path : FilePath) : Bool :=
  match tree.find path with
  | .ok .directory => true
  | _ => false

/-- The bytes of a file. -/
def read (tree : FileTree) (path : FilePath) : Except FileError (List UInt8) := do
  match ← tree.find path with
  | .directory => .error .isADirectory
  | .file content => .ok content

/-- The text of a file. -/
def readText (tree : FileTree) (path : FilePath) : Except FileError String := do
  match String.fromUTF8? ⟨(← tree.read path).toArray⟩ with
  | some text => .ok text
  | none => .error .invalidText

/-- Makes a directory in one that exists. -/
def makeDirectory (tree : FileTree) (path : FilePath) : Except FileError FileTree := do
  let place ← tree.locate path
  if (tree.node? place).isSome then .error .alreadyExists else .ok (tree.put place .directory)

/-- Makes a directory, unless it is there. -/
def ensureDirectory (tree : FileTree) (path : FilePath) : Except FileError FileTree :=
  match tree.makeDirectory path with
  | .ok tree => .ok tree
  | .error error => if tree.isDirectory path then .ok tree else .error error

/-- Makes a directory and those above it, at most `fuel` levels. -/
def ensureLevels : Nat → FileTree → FilePath → Except FileError Unit × FileTree
  | 0, tree, _ => (.ok (), tree)
  | fuel + 1, tree, path =>
    match tree.ensureDirectory path with
    | .ok tree => (.ok (), tree)
    | .error .notFound =>
      match path.parent? with
      | none => (.error .notFound, tree)
      | some parent =>
        match ensureLevels fuel tree parent with
        | (.error error, tree) => (.error error, tree)
        | (.ok (), tree) =>
          match tree.ensureDirectory path with
          | .ok tree => (.ok (), tree)
          | .error error => (.error error, tree)
    | .error error => (.error error, tree)

/-- Makes a directory and those above it. -/
def ensureDirectories (tree : FileTree) (path : FilePath) : Except FileError Unit × FileTree :=
  if path.isEmpty then (.ok (), tree) else ensureLevels (path.names.length + 1) tree path

/-- Makes the directory that holds a path, and those above it. -/
def ensureParent (tree : FileTree) (path : FilePath) : Except FileError Unit × FileTree :=
  match path.parent? with
  | none => (.ok (), tree)
  | some parent => tree.ensureDirectories parent

/-- Opens a file for writing, which makes an empty one if there is none; `update` is told the bytes
that it holds.  No file is ever opened under a path that ends in a slash. -/
def modify (tree : FileTree) (path : FilePath) (update : List UInt8 → List UInt8) :
    Except FileError FileTree := do
  let place ← tree.locate path
  match path.ending, tree.node? place with
  | .slash, _ | _, some .directory => .error .isADirectory
  | .dot, none => .error .notFound
  | .dot, some (.file _) => .error .notADirectory
  | .name, none => .ok (tree.put place (.file (update [])))
  | .name, some (.file content) => .ok (tree.put place (.file (update content)))

/-- Writes a text to a file, in place of what it held. -/
def write (tree : FileTree) (path : FilePath) (text : String) : Except FileError FileTree :=
  tree.modify path fun _ => text.toUTF8.toList

/-- Makes an empty file, unless it is there. -/
def touch (tree : FileTree) (path : FilePath) : Except FileError FileTree :=
  tree.modify path id

end FileTree

end ToolAssistant
