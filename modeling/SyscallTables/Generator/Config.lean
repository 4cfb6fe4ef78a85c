import SyscallTables.Files.Path
import SyscallTables.Emit.CTable

namespace SyscallTables

/-! Where the generator reads and writes. Under the root, each OS has a directory in the
descriptions directory holding its description files and constant files (both named by
patterns, the constant pattern with an `{arch}` placeholder) and a `gen` directory for its
data definitions; the C tables go to the executor directory, one per OS. -/

/-- The generator's layout and C table names. -/
structure GenConfig where
  root : Path := ⟨""⟩
  sysDir : Path := ⟨"sys"⟩
  executorDir : Path := ⟨"executor"⟩
  descriptionPattern : String := "*.toml"
  constPattern : String := "*_\x7barch\x7d.const"
  template : CTemplate := {}
  deriving Repr, Inhabited

namespace GenConfig

/-- The directory of an OS. -/
def osDir (c : GenConfig) (os : String) : Path := (c.root.join c.sysDir).join ⟨os⟩

/-- The pattern of an OS's description files. -/
def descriptionGlob (c : GenConfig) (os : String) : Path :=
  (c.osDir os).join ⟨c.descriptionPattern⟩

/-- The pattern of an OS's constant files. -/
def constGlob (c : GenConfig) (os : String) : Path := (c.osDir os).join ⟨c.constPattern⟩

/-- The data definition of an architecture. -/
def dataDefinitionPath (c : GenConfig) (os arch : String) : Path :=
  ((c.osDir os).join ⟨"gen"⟩).join ⟨arch ++ ".json"⟩

/-- The C table of an OS. -/
def cTablePath (c : GenConfig) (os : String) : Path :=
  (c.root.join c.executorDir).join ⟨"syscalls_" ++ os ++ ".h"⟩

end GenConfig

end SyscallTables
