import ScriptBridge.CommandLine.Run

/-!
# The program

The program takes a picture of the tree below the working directory, runs the command line over it,
prints what is to be printed and writes the files that have changed. What it does in between is
`CommandLine.run`.
-/

namespace ScriptBridge.CommandLine

/-- The location of an absolute path. -/
def locationOf (path : String) : Location := (Path.segments path).filter (· ≠ "")

/-- The absolute path of a location. -/
def pathOf (location : Location) : String := "/" ++ "/".intercalate location

/-- A time of the file system. -/
def instantOf (time : IO.FS.SystemTime) : Instant := ⟨time.sec, time.nsec.toNat⟩

/-- Adds entries of directories, and what is below them, to a tree. What is neither a file nor a
directory nor a link is left out. -/
partial def picture (tree : Tree) (entries : List IO.FS.DirEntry) : IO Tree :=
  entries.foldlM (fun tree entry => do
    let path := entry.path
    let location := locationOf path.toString
    let about ← path.symlinkMetadata
    let modified := instantOf about.modified
    match about.type with
    | .dir => picture (tree.put location (.directory modified)) (← path.readDir).toList
    | .file => return tree.put location (.file (← IO.FS.readBinFile path).toList modified)
    | .symlink =>
      let target ← try pure (← IO.FS.realPath path).toString catch _ => pure ""
      return tree.put location (.link target modified)
    | .other => return tree) tree

/-- Writes the files of a tree that another one does not have. -/
def writeChanges (old new : Tree) : IO Unit :=
  new.items.entries.forM fun (location, item) => do
    match item with
    | .file octets _ =>
      if old.item? location ≠ some item then
        IO.FS.writeBinFile (pathOf location) ⟨octets.toArray⟩
    | _ => return

end ScriptBridge.CommandLine

open ScriptBridge CommandLine in
/-- Runs the command line in the working directory. -/
def main (arguments : List String) : IO UInt32 := do
  let place ← IO.currentDir
  let tree ← picture (.empty (locationOf place.toString)) (← place.readDir).toList
  let outcome := CommandLine.run arguments tree
  outcome.printed.forM IO.println
  if let some failure := outcome.failure then
    IO.eprintln ("Error: " ++ failure)
  if outcome.code = 2 then helpText.forM IO.eprintln
  writeChanges tree outcome.tree
  return outcome.code.toUInt32
