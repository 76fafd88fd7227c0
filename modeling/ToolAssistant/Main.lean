import Std.Time.Zoned
import ToolAssistant.Files.Snapshot
import ToolAssistant.Identifier
import ToolAssistant.Program.Launch

/-!
# The program

Looks at the files that a run may need, runs it on what was found, and saves what it changed.
There is no way to the network and no keychain: requests end without a response, and keys come from
the environment.
-/

namespace ToolAssistant

/-- The computer as the program sees it. -/
structure Machine where
  files : FileTree
  now : Instant
  today : Date
  /-- The serial number of the next identifier. -/
  serial : Nat

/-- The computer as a system. -/
def Machine.system (home : String) : System Machine where
  client _ machine := (.ends .zero none, machine)
  fresh machine :=
    (Identifier.ofSerial machine.serial, { machine with serial := machine.serial + 1 })
  now := Machine.now
  today := Machine.today
  files := Machine.files
  setFiles files machine := { machine with files }
  keychain := ⟨some "no keychain is available"⟩
  home := home

/-! ## Files on disk -/

/-- The text of a place. -/
def Place.text (place : Place) : String := "/" ++ String.intercalate "/" place

/-- What lies at a place of the disk; only directories cannot be read. -/
def nodeOnDisk (place : Place) : IO (Option FileNode) := do
  try
    return some (.file (← IO.FS.readBinFile place.text).toList)
  catch
    | .inappropriateType .. => return some .directory
    | _ => return none

/-- Notes down what lies at a place and at the directories that lead there. -/
def observe (files : FileTree) (place : Place) : IO FileTree := do
  let mut files := files
  for n in List.range place.length do
    let part := place.take (n + 1)
    match ← nodeOnDisk part with
    | some node => files := files.put part node
    | none => return files
  return files

/-- The names of a path from the root. -/
def FilePath.place (path : FilePath) (workingDirectory : Place) : Place :=
  path.names.foldl (fun place name => if name = ".." then place.dropLast else place ++ [name])
    (if path.absolute then [] else workingDirectory)

/-- Notes down what lies at some paths. -/
def observeAll (files : FileTree) (paths : List FilePath) : IO FileTree :=
  paths.foldlM (fun files path => observe files (path.place files.workingDirectory)) files

/-- Saves what has changed, directories first. -/
def save (before after : FileTree) : IO Unit := do
  let changed := after.nodes.filter fun (place, node) => before.node? place != some node
  for (place, node) in changed do
    if node = .directory then IO.FS.createDirAll place.text
  for (place, node) in changed do
    match node with
    | .file content => IO.FS.writeBinFile place.text ⟨content.toArray⟩
    | .directory => pure ()

/-! ## The computer -/

/-- The environment as far as a file of variables may refer to it. -/
def readEnvironment (files : FileTree) : IO Environment := do
  let texts := (Launch.variablesPlaces files).filterMap fun place =>
    (files.readText (.ofPlace place)).toOption
  let names := knownSecrets ++ texts.flatMap Dotenv.namesIn
  names.filterMapM fun name => return (← IO.getEnv name).map fun value => (name, value)

/-- The date where the computer is. -/
def readDate : IO Date := do
  let date ← Std.Time.PlainDate.now
  return ⟨date.year.toInt, date.month.val.toNat, date.day.val.toNat⟩

/-- The time. -/
def readTime : IO Instant := do
  return .ofUnixNanoseconds (← Std.Time.Timestamp.now).toNanosecondsSinceUnixEpoch.val

/-- A number to start serial numbers from. -/
def readSerial : IO Nat := do
  return (← IO.getRandomBytes 5).toList.foldl (fun n byte => n * 256 + byte.toNat) 0

/-- Runs the program with arguments. -/
def runProgram (arguments : List String) : IO UInt32 := do
  let home := (← IO.getEnv "HOME").getD "/"
  let here := (FilePath.ofText (← IO.currentDir).toString).names
  let launch : Launch := { arguments, environment := [], input := [] }
  let known ← observeAll ⟨[], here⟩ (launch.paths home ⟨[], here⟩)
  let known ← observeAll known (launch.paths home known)
  let input ← if launch.readsInput then (← IO.getStdin).readBinToEnd else pure .empty
  let launch := { launch with environment := ← readEnvironment known, input := inputLines input }
  let machine : Machine :=
    { files := known, now := ← readTime, today := ← readDate, serial := ← readSerial }
  let (exit, machine) := launch.run (Machine.system home) machine
  save known machine.files
  IO.print exit.output
  IO.eprint exit.errors
  return exit.code.toUInt32

end ToolAssistant

/-- The program. -/
def main (arguments : List String) : IO UInt32 :=
  ToolAssistant.runProgram arguments
