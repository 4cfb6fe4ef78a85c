import SyscallTables.Files.Tree
import SyscallTables.Text.Wildcard

namespace SyscallTables

/-! File patterns: a directory path followed by a file name in which `*` is a wildcard.
Expanding a pattern lists the regular files of that directory whose names match, joined to
the directory as written and sorted; a pattern with no directory part looks in `.`. -/

/-- Why a pattern could not be expanded. -/
inductive PatternError
  | noMatch
  | noFileName
  | io (dir : Path) (error : IoError)
  deriving DecidableEq, Repr

/-- The text of a pattern error. -/
def PatternError.message : PatternError → String
  | .noMatch => "no files matched by pattern"
  | .noFileName => "pattern has no file name component"
  | .io dir e => "reading directory " ++ dir.render ++ ": " ++ e.message

/-- The directory a pattern lists: its parent, or `.` when that is empty. -/
def Path.patternDir (pattern : Path) : Path :=
  match pattern.parent with
  | some p => if p.text.isEmpty then ⟨"."⟩ else p
  | none => ⟨"."⟩

/-- The files a pattern names, sorted by path. -/
def FileTree.expand (t : FileTree) (cwd : Location) (pattern : Path) :
    Except PatternError (List Path) := do
  let namePattern ← match pattern.fileName with
    | some n => pure n
    | none => throw .noFileName
  let dir := pattern.patternDir
  let entries ← match t.readDir cwd dir with
    | .ok es => pure es
    | .error e => throw (.io dir e)
  let matching := entries.filterMap fun (name, e) =>
    match e with
    | .file _ => if Wildcard.accepts namePattern name then some (dir.push name) else none
    | .directory => none
  if matching.isEmpty then throw .noMatch else pure matching

end SyscallTables
