namespace SyscallTables

/-! Targets: an operating system and an architecture with the ABI parameters the generated
tables depend on (pointer size, page size, the executor's data area), the C macros that
identify the architecture, and whether syscalls are dispatched by number. -/

/-- An operating system and architecture with its ABI parameters. -/
structure Target where
  os : String
  arch : String
  ptrSize : Nat
  pageSize : Nat
  numPages : Nat
  dataOffset : Nat
  syscallNumbers : Bool
  cArch : List String
  deriving DecidableEq, Repr, Inhabited

namespace Target

/-- The page size of every built-in target but one. -/
def defaultPageSize : Nat := 4096

/-- The number of pages of the executor's data area. -/
def defaultNumPages : Nat := 4096

/-- The address of the executor's data area. -/
def defaultDataOffset : Nat := 536870912

/-- A target with the default data area, dispatching by number. -/
def make (os arch : String) (ptrSize : Nat) (cArch : List String) : Target :=
  { os, arch, ptrSize, pageSize := defaultPageSize, numPages := defaultNumPages,
    dataOffset := defaultDataOffset, syscallNumbers := true, cArch }

/-- `os/arch`. -/
def name (t : Target) : String := t.os ++ "/" ++ t.arch

/-- The targets known without a catalog file, in their fixed order. -/
def builtin : List Target :=
  [ make "linux" "amd64" 8 ["__x86_64__"],
    make "linux" "386" 4 ["__i386__"],
    make "linux" "arm64" 8 ["__aarch64__"],
    make "linux" "arm" 4 ["__arm__"],
    { make "linux" "ppc64le" 8 ["__ppc64__", "__PPC64__", "__powerpc64__"] with pageSize := 65536 },
    make "freebsd" "amd64" 8 ["__x86_64__"],
    { make "fuchsia" "amd64" 8 ["__x86_64__"] with syscallNumbers := false },
    { make "fuchsia" "arm64" 8 ["__aarch64__"] with syscallNumbers := false },
    { make "windows" "amd64" 8 ["_M_X64"] with syscallNumbers := false } ]

end Target

end SyscallTables
