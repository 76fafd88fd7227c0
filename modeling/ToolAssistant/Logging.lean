import ToolAssistant.Failure
import ToolAssistant.Files.Tree

/-!
# Logging

What is logged is chosen by a directive that names the level of each part of the program.  A log
file is opened for appending, and made if it is not there.
-/

namespace ToolAssistant.Logging

/-- The parts that are logged at the chosen level. -/
def ownTargets : List String := ["recall_engine", "recall"]

/-- The parts that only log warnings. -/
def noisyTargets : List String := ["sqlx", "hyper", "reqwest"]

/-- The directive for a level. -/
def filterDirective (level : String) : String :=
  String.intercalate ","
    ([level] ++ ownTargets.map (· ++ "=" ++ level) ++ noisyTargets.map (· ++ "=warn"))

/-- Opens a log file, with the directories above it. -/
def openFile (files : FileTree) (path : FilePath) : Except FileError Unit × FileTree :=
  match files.ensureParent path with
  | (.error error, files) => (.error error, files)
  | (.ok (), files) =>
    match files.touch path with
    | .error error => (.error error, files)
    | .ok files => (.ok (), files)

/-- Starts logging, to a file too if one is given. -/
def start (files : FileTree) (logFile : Option FilePath) : Except Failure Unit × FileTree :=
  match logFile with
  | none => (.ok (), files)
  | some path =>
    match openFile files path with
    | (.error error, files) => (.error (.io error.message), files)
    | (.ok (), files) => (.ok (), files)

end ToolAssistant.Logging
