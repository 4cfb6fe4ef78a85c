import SyscallTables.Files.Tree

namespace SyscallTables

/-! Why generating the tables of an OS failed. Each error has a kind: the inputs could not be
read, a target did not compile, the targets disagree (a constant missing everywhere is more
likely a typo than an unsupported feature), or an output could not be written. -/

/-- The kind of a generation failure. -/
inductive ErrorKind
  | input
  | compile
  | consistency
  | output
  deriving DecidableEq, Repr, Inhabited

/-- The word for a kind of failure. -/
def ErrorKind.name : ErrorKind → String
  | .input => "input"
  | .compile => "compile"
  | .consistency => "consistency"
  | .output => "output"

/-- A generation failure. -/
inductive GenError
  /-- The descriptions of an OS did not read; `count` diagnostics were printed. -/
  | parse (os : String) (count : Nat)
  /-- Some targets failed; `kind` is the kind of the first failure. -/
  | targetsFailed (os : String) (targets : List String) (kind : ErrorKind)
  /-- A constant that every target lacks. -/
  | unsupported (os : String) (symbol : String)
  /-- Generated text that is not JSON, with the reader's message. -/
  | format (path : Path) (raw : String) (reason : String)
  | createDir (path : Path) (error : IoError)
  | readOutput (path : Path) (error : IoError)
  | writeOutput (path : Path) (error : IoError)
  deriving DecidableEq, Repr

namespace GenError

/-- The text of a generation failure. -/
def message : GenError → String
  | .parse os count =>
    "failed to parse descriptions for " ++ os ++ " (" ++ toString count ++ " errors)"
  | .targetsFailed os targets kind =>
    "generation failed for " ++ os ++ ": " ++ ", ".intercalate targets ++
      " (" ++ kind.name ++ " errors)"
  | .unsupported _ symbol => symbol ++ " is unsupported on all arches (typo?)"
  | .format path _ reason => "failed to format output for " ++ path.render ++ ": " ++ reason
  | .createDir path e => "failed to create directory " ++ path.render ++ ": " ++ e.message
  | .readOutput path e => "failed to read output file " ++ path.render ++ ": " ++ e.message
  | .writeOutput path e => "failed to write output file " ++ path.render ++ ": " ++ e.message

/-- The kind of a generation failure. -/
def kind : GenError → ErrorKind
  | .parse .. => .input
  | .targetsFailed _ _ k => k
  | .unsupported .. => .consistency
  | .format .. | .createDir .. | .readOutput .. | .writeOutput .. => .output

end GenError

end SyscallTables
