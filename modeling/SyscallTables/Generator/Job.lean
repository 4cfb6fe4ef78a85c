import SyscallTables.Generator.Writer
import SyscallTables.Target.Basic
import SyscallTables.Program.Basic

namespace SyscallTables

/-! The record of the work for one target: whether it succeeded, the diagnostic lines it
printed, what its program left unsupported, its C table fragment, revision and write status,
or the kind of its failure and the output error that caused it. -/

/-- The work for one target. -/
structure Job where
  target : Target
  ok : Bool := false
  errors : List String := []
  unsupported : List String := []
  archData : String := ""
  revision : Option String := none
  status : Option WriteStatus := none
  failure : Option ErrorKind := none
  outputError : Option GenError := none
  deriving Repr

namespace Job

/-- Marks a job failed with a kind and diagnostic lines. -/
def fail (j : Job) (kind : ErrorKind) (lines : List String) : Job :=
  { j with ok := false, failure := some kind, errors := j.errors ++ lines }

/-- The job of a target whose work stopped abnormally with a message. -/
def panicked (t : Target) (message : String) : Job :=
  Job.fail { target := t } .compile [t.name ++ ": generation task panicked: " ++ message]

end Job

/-- The first symbol, in sorted order, that every job left unsupported. -/
def firstUnsupportedEverywhere (jobs : List Job) : Option String :=
  let symbols := sortedNames (jobs.flatMap (·.unsupported))
  symbols.find? fun s => (jobs.filter (·.unsupported.contains s)).length = jobs.length

/-- Fails when some symbol is unsupported on every target. -/
def checkUnsupported (os : String) (jobs : List Job) : Except GenError Unit :=
  match firstUnsupportedEverywhere jobs with
  | some s => .error (.unsupported os s)
  | none => .ok ()

end SyscallTables
