/-
This file runs the command on the file system.
-/

import SvgComponent.Command.Run

namespace SvgComponent.Command

/-- No library is attached, so that markup stays as it is. -/
def identityLibrary : Library := fun request => .ok request.markup

/-- The entry of a path on the file system is added to the tree. -/
def observe (tree : FileTree) (path : Path) : IO FileTree := do
  let place := (← IO.currentDir) / path.text
  if tree.isPresent path then return tree
  else if ← place.isDir then return tree.addDirectory path
  else if ← place.pathExists then return tree.addFile path (← IO.FS.readBinFile place)
  else return tree

/-- A path is observed together with the directories on the way to it. -/
def observeWay (tree : FileTree) (path : Path) : IO FileTree :=
  (path.ancestors ++ [path]).foldlM observe tree

/-- A directory is observed with all that is below it. -/
partial def observeBelow (tree : FileTree) (path : Path) : IO FileTree := do
  let tree ← observeWay tree path
  if tree.isDirectory path then
    let entries ← ((← IO.currentDir) / path.text).readDir
    entries.foldlM (fun current entry => observeBelow current (path ++ [entry.fileName])) tree
  else return tree

/-- The part of the file system on which a run depends. -/
def observeRun (working : Path) (arguments : Arguments) : IO FileTree := do
  let config := (arguments.config.map (Path.resolve working)).toList
  let tree ← (working :: config).foldlM observeWay []
  match arguments.positional.map (Path.resolve working) with
  | [] => return tree
  | [path] => observeWay tree path
  | path :: output :: _ =>
      let tree ← observeBelow tree path
      ((sources tree path).map (target tree path output)).foldlM observeWay tree

/-- A file takes its place only after it has been written completely. -/
def store (path : Path) : Entry → IO Unit
  | .directory => IO.FS.createDirAll path.text
  | .file content => do
      let draft := Path.text (path.dropLast ++ ["." ++ path.getLast?.getD "" ++ ".tmp"])
      IO.FS.writeBinFile draft content
      IO.FS.rename draft path.text

/-- Diagnostic lines of a verbose run are not printed. -/
def perform (arguments : List String) : IO UInt32 := do
  let working := Path.resolve [] (← IO.currentDir).toString
  let tree ← match Arguments.read arguments with
    | .ok parsed => observeRun working parsed
    | .error _ => pure []
  let result := run identityLibrary tree working arguments
  for (path, entry) in result.tree do
    if tree.entryAt? path ≠ some entry then store path entry
  result.printed.forM IO.println
  result.complaints.forM IO.eprintln
  (result.fault.map Fault.message).toList.forM IO.eprintln
  return UInt32.ofNat result.exitCode

end SvgComponent.Command

def main (arguments : List String) : IO UInt32 :=
  SvgComponent.Command.perform arguments
