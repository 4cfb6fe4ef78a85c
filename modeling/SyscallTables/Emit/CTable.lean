namespace SyscallTables

/-! The C table of one architecture: a block guarded by the architecture's macros that defines
the architecture name, the revision and the data area, and lists every syscall with its
number, in the order given. A call the executor dispatches itself (every call of a target
without numbers, and every synthetic call) also names its callback. Numbers are written as the
executor's signed 32-bit field holds them: the low 32 bits in two's complement. -/

/-- The names the C table is written with. -/
structure CTemplate where
  archMacro : String := "GOARCH"
  macroPrefix : String := "SYZ_"
  entryType : String := "call_t"
  tableName : String := "syscalls"
  countName : String := "syscall_count"
  callbackType : String := "syscall_t"
  deriving DecidableEq, Repr, Inhabited

/-- One line of the table. -/
structure CRow where
  name : String
  callName : String
  nr : UInt64
  needCall : Bool
  deriving DecidableEq, Repr, Inhabited

/-- What the table of one architecture shows. -/
structure ArchData where
  arch : String
  cArch : List String
  revision : String
  pageSize : Nat
  numPages : Nat
  dataOffset : Nat
  rows : List CRow
  deriving DecidableEq, Repr, Inhabited

/-- A number as a signed 32-bit field holds its low 32 bits. -/
def lowSigned32 (n : UInt64) : Int :=
  let low : Nat := n.toNat % Nat.pow 2 32
  if low < Nat.pow 2 31 then (low : Int) else (low : Int) - (Nat.pow 2 32 : Nat)

/-- The text of one row. -/
def CTemplate.row (t : CTemplate) (r : CRow) : String :=
  let nr := toString (lowSigned32 r.nr)
  if r.needCall then
    "\t\x7b\"" ++ r.name ++ "\", " ++ nr ++ ", (" ++ t.callbackType ++ ")" ++ r.callName ++
      "\x7d,\n"
  else "\t\x7b\"" ++ r.name ++ "\", " ++ nr ++ "\x7d,\n"

/-- The C table of an architecture. -/
def CTemplate.render (t : CTemplate) (d : ArchData) : String :=
  let p := t.macroPrefix
  "\n#if " ++ String.join (d.cArch.map fun m => "defined(" ++ m ++ ") || ") ++ "0\n" ++
    "#define " ++ t.archMacro ++ " \"" ++ d.arch ++ "\"\n" ++
    "#define " ++ p ++ "REVISION \"" ++ d.revision ++ "\"\n" ++
    "#define " ++ p ++ "PAGE_SIZE " ++ toString d.pageSize ++ "\n" ++
    "#define " ++ p ++ "NUM_PAGES " ++ toString d.numPages ++ "\n" ++
    "#define " ++ p ++ "DATA_OFFSET " ++ toString d.dataOffset ++ "\n" ++
    "unsigned " ++ t.countName ++ " = " ++ toString d.rows.length ++ ";\n" ++
    t.entryType ++ " " ++ t.tableName ++ "[] = \x7b\n" ++
    String.join (d.rows.map t.row) ++
    "\x7d;\n#endif\n"

end SyscallTables
