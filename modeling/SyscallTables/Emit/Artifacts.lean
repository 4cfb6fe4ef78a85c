import SyscallTables.Emit.DataDefinition
import SyscallTables.Emit.CTable

namespace SyscallTables

/-! The artifacts of one target: its data definition, the revision of that definition, and the
C table fragment carrying the same revision, so the executor and the definition can be matched
at run time. -/

/-- What is generated for one target. -/
structure Artifacts where
  dataDefinition : String
  revision : String
  archData : String
  deriving DecidableEq, Repr, Inhabited

/-- The rows of the C table: the syscalls sorted by name. -/
def syscallRows (t : Target) (calls : List Syscall) : List CRow :=
  let rows := calls.map fun c =>
    (⟨c.name, c.callName, c.nr, !t.syscallNumbers || c.isSynthetic⟩ : CRow)
  rows.mergeSort fun a b => decide (a.name ≤ b.name)

/-- What the C table of a target shows. -/
def ArchData.ofProgram (t : Target) (revision : String) (calls : List Syscall) : ArchData :=
  ⟨t.arch, t.cArch, revision, t.pageSize, t.numPages, t.dataOffset, syscallRows t calls⟩

/-- Generates the artifacts of a program for its target. -/
def Program.emit (p : Program) (t : Target) (consts : ConstTable) (template : CTemplate) :
    Artifacts :=
  let body := dataBody t p consts
  let revision := Sha256.hexDigest body
  { dataDefinition := body ++ revisionEntry t.arch revision
    revision
    archData := template.render (ArchData.ofProgram t revision p.syscalls) }

end SyscallTables
