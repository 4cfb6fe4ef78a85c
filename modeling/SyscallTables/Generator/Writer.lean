import SyscallTables.Generator.Error
import SyscallTables.Json.Writer

namespace SyscallTables

/-! Writing the outputs. A data definition is stored in canonical form (pretty JSON with sorted
keys and a final line end), and a file that already holds exactly that is left alone, so a run
over unchanged inputs changes nothing. A C table is always written, behind a fixed header. The
directories above an output are made as needed. -/

/-- Whether an output was written or already up to date. -/
inductive WriteStatus
  | written
  | unchanged
  deriving DecidableEq, Repr, Inhabited

/-- The word for a write status. -/
def WriteStatus.name : WriteStatus → String
  | .written => "written"
  | .unchanged => "unchanged"

/-- The header of every C table file. -/
def cTableHeader : String := "// AUTOGENERATED FILE\n\n"

namespace FileTree

/-- Writes a file, making the directories above it first. -/
def storeOutput (t : FileTree) (cwd : Location) (path : Path) (content : String) :
    Except GenError FileTree := do
  let t ← match path.parent with
    | some parent =>
      if parent.text.isEmpty then pure t
      else match t.createDirAll cwd (parent.text.length + 2) parent with
        | .ok t' => pure t'
        | .error e => throw (.createDir parent e)
    | none => pure t
  match t.writeFile cwd path content with
  | .ok t' => pure t'
  | .error e => throw (.writeOutput path e)

/-- Stores a data definition in canonical form, unless the file already holds it. -/
def writeDataDefinition (t : FileTree) (cwd : Location) (path : Path) (raw : String) :
    Except GenError (WriteStatus × FileTree) := do
  let formatted ← match Json.canonicalize raw with
    | .ok text => pure text
    | .error e => throw (.format path raw e.message)
  match t.readFile cwd path with
  | .ok existing =>
    if existing = formatted then pure (.unchanged, t)
    else pure (.written, ← t.storeOutput cwd path formatted)
  | .error .notFound => pure (.written, ← t.storeOutput cwd path formatted)
  | .error e => throw (.readOutput path e)

/-- Writes a C table from its fragments. -/
def writeCTable (t : FileTree) (cwd : Location) (path : Path) (fragments : List String) :
    Except GenError FileTree :=
  t.storeOutput cwd path (cTableHeader ++ String.join fragments)

end FileTree

end SyscallTables
