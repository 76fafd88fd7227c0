import ToolAssistant.Failure
import ToolAssistant.Files.Tree
import ToolAssistant.Http.Percent
import ToolAssistant.Text.Lossy

/-!
# Where the local index is kept

The file of the local index is named by an address: a path with escapes, which parameters may
follow.  An address with parameters, or one that begins with `file:`, is turned into a file URI,
which has parameters of its own.  What is left is a path that is made sense of without looking at
the files, so `..` takes away the name before it whether or not there is such a directory.
-/

namespace ToolAssistant

/-- The failure for an address that cannot be made sense of. -/
def invalidLocation : Failure :=
  .database "Invalid database path: it has parameters or bytes that are no text"

/-- The failure to connect to a database, with its code. -/
def cannotConnect (code : Nat) (reason : String) : Failure :=
  .database
    ("Failed to connect to database: error returned from database: (code: " ++ toString code ++
      ") " ++ reason)

/-- The failure for a file that cannot be opened. -/
def cannotOpen : Failure := cannotConnect 14 "unable to open database file"

/-- The failure for a path with a NUL byte. -/
def pathHasNul : Failure :=
  .database
    ("Failed to connect to database: error communicating with database: " ++
      "filename passed to SQLite must not contain nul bytes")

/-! ## Addresses -/

/-- What an address says: a path, whether the file is taken to never change, and the file system. -/
structure Location where
  path : String
  isImmutable : Bool := false
  fileSystem : Option String := none
  deriving DecidableEq, Repr

namespace Location

/-- The marks that may stand in front of a path, as often as they like. -/
def marks : List String := ["sqlite://", "sqlite:"]

/-- Drops a mark from the front of a text, at most `fuel` times. -/
def dropMark (mark : List Char) : Nat → List Char → List Char
  | 0, cs => cs
  | fuel + 1, cs => if mark.isPrefixOf cs then dropMark mark fuel (cs.drop mark.length) else cs

/-- Drops the marks from the front of a text. -/
def dropMarks (cs : List Char) : List Char :=
  marks.foldl (fun cs mark => dropMark mark.toList cs.length cs) cs

/-- A name or a value of a form. -/
def formValue (cs : List Char) : String :=
  let plain := cs.map fun c => if c = '+' then ' ' else c
  Text.ofBytes (Http.unescapeBytes (String.ofList plain).toUTF8.toList)

/-- The pairs of a form. -/
def formValues (cs : List Char) : List (String × String) :=
  let parts := (cs.splitOnP (· == '&')).filter (!·.isEmpty)
  parts.map fun part =>
    let name := part.takeWhile (· != '=')
    (formValue name, formValue (part.drop (name.length + 1)))

/-- Takes a parameter into account. -/
def withParameter (location : Location) : String × String → Option Location
  | ("mode", mode) => if ["ro", "rw", "rwc", "memory"].contains mode then some location else none
  | ("cache", cache) => if ["private", "shared"].contains cache then some location else none
  | ("immutable", value) =>
    if ["true", "1"].contains value then some { location with isImmutable := true }
    else if ["false", "0"].contains value then some { location with isImmutable := false }
    else none
  | ("vfs", name) => some { location with fileSystem := some name }
  | _ => none

/-- Reads an address. -/
def read? (address : String) : Option Location := do
  let cs := dropMarks address.toList
  let path := cs.takeWhile (· != '?')
  (formValues (cs.drop (path.length + 1))).foldlM withParameter
    { path := ← Http.unescape? (String.ofList path) }

/-- What a location is opened by: its path, or a file URI if there is more to say. -/
def opener (location : Location) : String :=
  let parameters :=
    (if location.isImmutable then ["immutable=true"] else []) ++
      location.fileSystem.toList.map ("vfs=" ++ ·)
  if parameters.isEmpty then location.path
  else
    let isPlain (c : Char) : Bool := c.isAlphanum || "-_.~".contains c
    "file:" ++ String.ofList (Http.escape (!isPlain ·) location.path.toList) ++ "?" ++
      String.intercalate "&" parameters

end Location

/-! ## File URIs -/

/-- What stands in a part of a file URI; nothing after an escaped NUL byte counts. -/
def uriPart (cs : List Char) : String :=
  Text.ofBytes ((Http.unescapeBytes (String.ofList cs).toUTF8.toList).takeWhile (· != 0))

/-- The names of the file systems that there are. -/
def fileSystems : List String := ["unix", "unix-none", "unix-dotfile", "unix-excl"]

/-- The path that is opened for a text, which may be a file URI. -/
def pathToOpen (text : String) : Except Failure String :=
  match text.toList with
  | 'f' :: 'i' :: 'l' :: 'e' :: ':' :: uri => do
    let uri := uri.takeWhile (· != '#')
    let path ←
      match uri with
      | '/' :: '/' :: rest =>
        let authority := rest.takeWhile (· != '/')
        if authority.isEmpty || authority == "localhost".toList then
          pure (rest.drop authority.length)
        else
          throw (cannotConnect 1 ("invalid uri authority: " ++ String.ofList authority))
      | _ => pure uri
    let name := path.takeWhile (· != '?')
    let options := ((path.drop (name.length + 1)).splitOnP (· == '&')).map fun option =>
      let key := option.takeWhile (· != '=')
      (uriPart key, uriPart (option.drop (key.length + 1)))
    match options.reverse.lookup "vfs" with
    | none => return uriPart name
    | some fileSystem =>
      if fileSystems.contains fileSystem then return uriPart name
      else throw (cannotConnect 1 ("no such vfs: " ++ fileSystem))
  | _ => .ok text

/-! ## Paths -/

/-- How many bytes a path to the file may take on the way, and when it is complete; the rest is
for the names of files beside it. -/
def locationLimits : Nat × Nat := (511, 504)

/-- How many bytes a place takes when it is written. -/
def Place.byteCount (place : Place) : Nat :=
  (place.map (·.utf8ByteSize + 1)).foldr (· + ·) 0

/-- Goes on to a name, or back at `..`. -/
def FileTree.approach (tree : FileTree) (place : Place) (name : String) : Option Place :=
  if name = ".." then some place.dropLast
  else
    let next := place ++ [name]
    if Place.byteCount next > locationLimits.1 then none
    else
      match tree.find (.ofPlace next) with
      | .ok _ | .error .notFound => some next
      | .error _ => none

/-- The place of the file of an index. -/
def FileTree.placeOfIndex (tree : FileTree) (address : String) : Except Failure Place := do
  let some location := Location.read? address | throw invalidLocation
  let opener := location.opener
  if opener.toList.contains '\x00' then throw pathHasNul
  let path := FilePath.ofText (← pathToOpen opener)
  let start := if path.absolute then [] else tree.workingDirectory
  match path.names.foldlM tree.approach start with
  | none => throw cannotOpen
  | some place =>
    if Place.byteCount place > locationLimits.2 then throw cannotOpen
    return place

end ToolAssistant
