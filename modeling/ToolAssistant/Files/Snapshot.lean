import ToolAssistant.Files.Tree

/-!
# Snapshots of files

Builds a tree from files and directories that are known to exist, and lists the files of a tree.
-/

namespace ToolAssistant.FileTree

/-- The tree with a directory, as far as nothing stands in its way. -/
def withDirectory (tree : FileTree) (path : FilePath) : FileTree :=
  (tree.ensureDirectories path).2

/-- The tree with a file and the directories that lead to it, as far as nothing stands in its
way. -/
def withFile (tree : FileTree) (path : FilePath) (content : List UInt8) : FileTree :=
  let tree := (tree.ensureParent path).2
  match tree.modify path fun _ => content with
  | .ok tree => tree
  | .error _ => tree

/-- The files below a place, each with the names that lead to it from there. -/
def filesBelow (tree : FileTree) (place : Place) : List (Place × List UInt8) :=
  tree.nodes.filterMap fun (found, node) =>
    match node with
    | .file content =>
      if place.isPrefixOf found then some (found.drop place.length, content) else none
    | .directory => none

end ToolAssistant.FileTree
