import ToolAssistant.Memory.Index
import ToolAssistant.Memory.Location
import ToolAssistant.World.System

/-!
# The file of the local index

The documents of the local index are kept in one file below the data directory, with the last
number that was taken.  Every change is written at once.
-/

namespace ToolAssistant

namespace Document

/-- A document as data. -/
def toJson (document : Document) : Json :=
  .array
    [.ofNat document.rowId, .string document.turnId, .string document.userId,
      .string document.content]

/-- Reads a document. -/
def ofJson? : Json → Option Document
  | .array [rowId, .string turnId, .string userId, .string content] => do
    some ⟨← rowId.uint64?, turnId, userId, content⟩
  | _ => none

end Document

namespace Index

/-- The text that keeps an index. -/
def fileText (index : Index) : String :=
  (Json.array [.ofNat index.lastRow, .array (index.documents.map Document.toJson)]).compact

/-- Reads an index. -/
def ofJson? : Json → Option Index
  | .array [lastRow, .array rows] => do
    let documents ← rows.mapM Document.ofJson?
    some (documents.foldl put { empty with lastRow := ← lastRow.uint64? })
  | _ => none

/-- Reads the text that keeps an index; an empty one keeps no documents. -/
def ofFileText? (text : String) : Option Index :=
  if text.isEmpty then some empty else do ofJson? (← Json.read? text)

/-- The name of the file. -/
def fileName : String := "memory.db"

/-- The failure for a file that keeps no index. -/
def isNoIndex : Failure := cannotConnect 26 "file is not a database"

/-- The place of the file whose path is written so. -/
def placeOf (files : FileTree) (text : String) : Except Failure Place :=
  files.placeOfIndex ("sqlite:" ++ text)

/-- The index in a file; a file that is no index counts as empty. -/
def inFile (files : FileTree) (path : FilePath) : Index :=
  match files.readText path with
  | .ok text => (ofFileText? text).getD empty
  | .error _ => empty

/-- The files with another index in a file. -/
def writeTo (files : FileTree) (path : FilePath) (index : Index) : FileTree :=
  match files.write path index.fileText with
  | .ok files => files
  | .error _ => files

/-- Opens the file of an index, which is made if it is not there. -/
def openFile (files : FileTree) (path : FilePath) : Except Failure FileTree :=
  match files.touch path with
  | .error _ => .error cannotOpen
  | .ok files =>
    match files.readText path with
    | .ok text => if (ofFileText? text).isSome then .ok files else .error isNoIndex
    | .error _ => .error isNoIndex

variable {σ : Type}

/-- The index in a file of a system, as a memory store. -/
def fileStore (system : System σ) (path : FilePath) : MemoryStore σ :=
  store (fun world => inFile (system.files world) path) fun change world =>
    let files := system.files world
    system.setFiles (writeTo files path (change (inFile files path))) world

/-- Opens the index below a data directory. -/
def openBelow (system : System σ) (dataDirectory : String) (world : σ) :
    Except Failure (MemoryStore σ) × σ :=
  let text := FilePath.joinText dataDirectory fileName
  match (system.files world).ensureParent (FilePath.ofText text) with
  | (.error error, files) => (.error (.io error.message), system.setFiles files world)
  | (.ok (), files) =>
    let world := system.setFiles files world
    match placeOf files text with
    | .error failure => (.error failure, world)
    | .ok place =>
      let path := FilePath.ofPlace place
      match openFile files path with
      | .error failure => (.error failure, world)
      | .ok files => (.ok (fileStore system path), system.setFiles files world)

end Index

end ToolAssistant
