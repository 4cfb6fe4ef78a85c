import SyscallTables.Emit.Artifacts
import SyscallTables.Proofs.Compile.Numbering

namespace SyscallTables

/-! The C table fragment of a target, read off the syscalls it is given. The fragment opens
with a guard testing the target's macros in order, defines the architecture, the revision and
the data area, states the number of syscalls, and lists one row per syscall in a stable sort by
name. A row names the callback of every call the executor dispatches itself: every call of a
target that does not dispatch by number, and every call whose call name starts with `syz_`. Its
number is the one the executor's signed 32-bit field holds, the low 32 bits of the syscall's
number read in two's complement.

A compiled program lists its syscalls sorted by name already, so its fragment lists them in the
program's own order and the row at position `i` is that of the syscall with id `i`. -/

/-- The row of a syscall in its target's fragment. -/
def syscallRowText (template : CTemplate) (target : Target) (c : Syscall) : String :=
  let nr := toString c.nr.toUInt32.toInt32.toInt
  if !target.syscallNumbers || c.callName.startsWith "syz_" then
    "\t\x7b\"" ++ c.name ++ "\", " ++ nr ++ ", (" ++ template.callbackType ++ ")" ++ c.callName ++
      "\x7d,\n"
  else "\t\x7b\"" ++ c.name ++ "\", " ++ nr ++ "\x7d,\n"

/-- A target's fragment that states a count and lists rows for syscalls in the order given. -/
def fragmentText (template : CTemplate) (target : Target) (revision : String) (count : Nat)
    (calls : List Syscall) : String :=
  "\n#if " ++ String.join (target.cArch.map fun m => "defined(" ++ m ++ ") || ") ++ "0\n" ++
    "#define " ++ template.archMacro ++ " \"" ++ target.arch ++ "\"\n" ++
    "#define " ++ template.macroPrefix ++ "REVISION \"" ++ revision ++ "\"\n" ++
    "#define " ++ template.macroPrefix ++ "PAGE_SIZE " ++ toString target.pageSize ++ "\n" ++
    "#define " ++ template.macroPrefix ++ "NUM_PAGES " ++ toString target.numPages ++ "\n" ++
    "#define " ++ template.macroPrefix ++ "DATA_OFFSET " ++ toString target.dataOffset ++ "\n" ++
    "unsigned " ++ template.countName ++ " = " ++ toString count ++ ";\n" ++
    template.entryType ++ " " ++ template.tableName ++ "[] = \x7b\n" ++
    String.join (calls.map (syscallRowText template target)) ++
    "\x7d;\n#endif\n"

/-- The number a row shows is the low 32 bits of the syscall's number read as a signed
32-bit integer. -/
theorem lowSigned32_eq_toInt32 (n : UInt64) : lowSigned32 n = n.toUInt32.toInt32.toInt := by
  have low : n.toUInt32.toInt32.toBitVec.toNat = n.toNat % 2 ^ 32 := rfl
  rw [Int32.toInt, BitVec.toInt_eq_toNat_cond, low]
  unfold lowSigned32
  simp only [Nat.pow_eq, Nat.reducePow]
  split_ifs <;> omega

/-- The row the table takes from a syscall. -/
def syscallRow (target : Target) (c : Syscall) : CRow :=
  ⟨c.name, c.callName, c.nr, !target.syscallNumbers || c.isSynthetic⟩

theorem row_syscallRow (template : CTemplate) (target : Target) (c : Syscall) :
    template.row (syscallRow target c) = syscallRowText template target c := by
  unfold CTemplate.row syscallRowText
  rw [lowSigned32_eq_toInt32]
  -- the row's flag is the callback test, with `syz_` as the synthetic prefix
  rfl

/-- The rows of a table are the rows of its syscalls, sorted by name. -/
theorem syscallRows_eq (target : Target) (calls : List Syscall) :
    syscallRows target calls =
      (calls.mergeSort fun a b => decide (a.name ≤ b.name)).map (syscallRow target) := by
  rw [syscallRows]
  exact (List.map_mergeSort (f := syscallRow target) fun _ _ _ _ => rfl).symm

/-- Syscalls already sorted by name keep their order in the table. -/
theorem syscallRows_of_sorted {target : Target} {calls : List Syscall}
    (sorted : calls.Pairwise fun a b => a.name ≤ b.name) :
    syscallRows target calls = calls.map (syscallRow target) := by
  rw [syscallRows_eq, List.mergeSort_of_pairwise (by simpa using sorted)]

/-- A target's fragment lists the rows of its syscalls in the order the table's rows have. -/
theorem render_ofProgram_eq (template : CTemplate) (target : Target) (revision : String)
    {calls ordered : List Syscall} (rows : syscallRows target calls = ordered.map (syscallRow target)) :
    template.render (ArchData.ofProgram target revision calls) =
      fragmentText template target revision calls.length ordered := by
  have count : (syscallRows target calls).length = calls.length := by
    simp [syscallRows]
  have texts : (ordered.map (syscallRow target)).map template.row =
      ordered.map (syscallRowText template target) := by
    rw [List.map_map]
    exact List.map_congr_left fun c _ => row_syscallRow template target c
  unfold CTemplate.render ArchData.ofProgram fragmentText
  dsimp only
  rw [count, rows, texts]

end SyscallTables
