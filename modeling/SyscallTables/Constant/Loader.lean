import SyscallTables.Constant.File
import SyscallTables.Files.Pattern

namespace SyscallTables.ConstFile

/-! Loading the constants of one architecture: the pattern names the files once the
architecture is put in for every `{arch}`, and the files are read in path order into one
table. A pattern that names no file is one diagnostic at the pattern. -/

/-- The placeholder for the architecture in constant patterns. -/
def archPlaceholder : String := "\x7barch\x7d"

/-- A constant pattern with the architecture put in. -/
def patternFor (pattern : Path) (arch : String) : Path :=
  ⟨pattern.text.replace archPlaceholder arch⟩

/-- Reads every file of a list into one table and one diagnostic list. -/
def readAll (t : FileTree) (cwd : Location) (files : List Path) : ConstTable × List Diagnostic :=
  files.foldl (fun state path =>
    let file := path.render
    match t.readFile cwd path with
    | .ok source => read file source state
    | .error e =>
      (state.1, state.2 ++ [⟨Position.ofFile file, "failed to read: " ++ e.message⟩]))
    (ConstTable.empty, [])

/-- The constants of an architecture, or what went wrong. -/
def load (t : FileTree) (cwd : Location) (pattern : Path) (arch : String) :
    Except (List Diagnostic) ConstTable :=
  let pattern := patternFor pattern arch
  match t.expand cwd pattern with
  | .error e => .error [⟨Position.ofFile pattern.render, e.message⟩]
  | .ok files =>
    let (table, diags) := readAll t cwd files
    if diags.isEmpty then .ok table else .error diags

end SyscallTables.ConstFile
