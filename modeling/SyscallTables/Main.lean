import SyscallTables.Command.Run

/-! The command line. The files of the project are read into a file tree: every file under the
nearest directory at or above the working directory that holds the manifest, or under the
working directory when none does. The command runs on that tree, and every file and directory
the run made or changed is then written back, so the disk ends as the tree does. -/

namespace SyscallTables.Command

/-- The host path of a location. -/
def hostPath (loc : Location) : String := (Location.toPath loc).render

/-- How deep below the project directory files are read; deeper ones stay unseen. -/
def loadDepth : Nat := 64

/-- The project directory seen from a working directory: the nearest one at or above it that
holds the manifest, or the working directory itself. -/
def projectDir (cwd : Location) : IO Location := do
  for n in List.range (cwd.length + 1) do
    let dir := cwd.take (cwd.length - n)
    if ← (System.mkFilePath [hostPath (dir ++ [manifestFile])]).pathExists then
      return dir
  return cwd

/-- Reads the files below a directory into a tree, down to a depth. Files that are not UTF-8
text or cannot be read are left out, as are directories that cannot be listed. -/
def loadBelow (t : FileTree) (loc : Location) : Nat → IO FileTree
  | 0 => pure t
  | depth + 1 => do
    let listing ← try (System.mkFilePath [hostPath loc]).readDir catch _ => pure #[]
    let mut t := t
    for entry in listing do
      let here := loc ++ [entry.fileName]
      if ← entry.path.isDir then
        t ← loadBelow (t.set here .directory) here depth
      else
        let bytes ← try pure (some (← IO.FS.readBinFile entry.path)) catch _ => pure none
        if let some text := bytes.bind String.fromUTF8? then
          t := t.set here (.file text)
    return t

/-- The project's files as a tree, with the directories above the project directory. -/
def loadProject (cwd : Location) : IO FileTree := do
  let root ← projectDir cwd
  loadBelow (FileTree.empty.change root .makeDir) root loadDepth

/-- Writes entries to the disk: a directory is made, a file written. -/
def storeChanges (changes : List (Location × Entry)) : IO Unit := do
  for (loc, e) in changes do
    match e with
    | .directory => IO.FS.createDirAll (hostPath loc)
    | .file text => IO.FS.writeFile (hostPath loc) text

end SyscallTables.Command

open SyscallTables in
/-- Runs the command in the working directory and exits with its code. -/
def main (args : List String) : IO UInt32 := do
  let cwd := FileTree.steps ⟨(← IO.currentDir).toString⟩
  let tree ← match Command.Request.ofArgs args with
    | .run _ => Command.loadProject cwd
    | _ => pure FileTree.empty
  let outcome := Command.run args tree cwd
  Command.storeChanges (outcome.tree.changesFrom tree)
  IO.print outcome.stdout
  IO.eprint outcome.stderr
  return outcome.code.toUInt32
