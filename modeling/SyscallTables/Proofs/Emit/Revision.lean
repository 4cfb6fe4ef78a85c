import SyscallTables.Proofs.Emit.Document
import SyscallTables.Proofs.Constant.Contents

namespace SyscallTables

open Json

/-! What the revision of a target's artifacts stamps. The revision is the SHA-256 of the data
body, the data definition before its revision entry, written as 64 lowercase hexadecimal digits;
the data definition closes the body with it and the C table's revision macro carries it too.
The body is made of the target's header fields, the program's three tables and the contents of
the constant table, and nothing else: two bodies are the same text exactly when they agree on
all of these, so that a revision can only stay the same across a changed source through a
collision of SHA-256. -/

/-! ## The digest text -/

namespace Sha256

/-- A lowercase hexadecimal digit. -/
def IsLowerHex (c : Char) : Prop := ('0' ≤ c ∧ c ≤ '9') ∨ ('a' ≤ c ∧ c ≤ 'f')

/-- Two texts with the same digest. -/
def Collision (a b : String) : Prop := a ≠ b ∧ hexDigest a = hexDigest b

theorem compress_size (state : Array UInt32) (block : List UInt8) :
    (compress state block).size = 8 := by
  simp [compress]

theorem foldl_compress_size (blocks : List (List UInt8)) (state : Array UInt32)
    (eight : state.size = 8) : (blocks.foldl compress state).size = 8 := by
  induction blocks generalizing state with
  | nil => exact eight
  | cons block rest ih => exact ih _ (compress_size state block)

theorem length_bigEndian (count n : Nat) : (bigEndian count n).length = count := by
  simp [bigEndian]

theorem length_digest (message : List UInt8) : (digest message).length = 32 := by
  rw [digest, List.length_flatMap]
  have eight := foldl_compress_size (blocks (pad message)) initialState rfl
  generalize (blocks (pad message)).foldl compress initialState = state at eight ⊢
  simp [length_bigEndian, eight]

theorem hexByte_digits (b : UInt8) :
    (hexByte b).length = 2 ∧ ∀ c ∈ (hexByte b).toList, IsLowerHex c := by
  -- each half of the byte is below 16, and every digit below 16 is written lowercase
  have lower : ∀ n, n < 16 →
      IsLowerHex (if n < 10 then Char.ofNat (48 + n) else Char.ofNat (87 + n)) := by
    unfold IsLowerHex
    decide
  have byte : b.toNat < 256 := UInt8.toNat_lt_size b
  refine ⟨by simp [hexByte], ?_⟩
  simp only [hexByte, String.toList_ofList, List.mem_cons, List.not_mem_nil, or_false]
  rintro c (rfl | rfl)
  · exact lower _ (by omega)
  · exact lower _ (by omega)

theorem join_hexByte_digits (bytes : List UInt8) :
    (String.join (bytes.map hexByte)).length = 2 * bytes.length ∧
      ∀ c ∈ (String.join (bytes.map hexByte)).toList, IsLowerHex c := by
  induction bytes with
  | nil => simp
  | cons b bytes ih =>
    obtain ⟨two, digits⟩ := hexByte_digits b
    simp only [List.map_cons, String.join_cons, String.length_append, String.toList_append,
      List.mem_append, List.length_cons, two, ih.1]
    exact ⟨by omega, fun c member => member.elim (digits c) (ih.2 c)⟩

/-- A digest is written as 64 lowercase hexadecimal digits. -/
theorem hexDigest_digits (text : String) :
    (hexDigest text).length = 64 ∧ ∀ c ∈ (hexDigest text).toList, IsLowerHex c := by
  obtain ⟨length, digits⟩ := join_hexByte_digits (digest text.toUTF8.toList)
  exact ⟨by rw [hexDigest, length, length_digest], digits⟩

end Sha256

/-! ## Reading a body back at any depth -/

/-- Two objects written one member per line as the same text have the same members once sorted
by key, however deep they nest. -/
theorem normalizeMembers_eq_of_lineObject_eq {m : String × Value} {ms₁ ms₂ : List (String × Value)}
    (exact₁ : MembersExact (m :: ms₁)) (exact₂ : MembersExact (m :: ms₂))
    (same : lineObject m ms₁ = lineObject m ms₂) :
    normalizeMembers [] (m :: ms₁) = normalizeMembers [] (m :: ms₂) := by
  -- read both texts allowing more nesting than either has
  have room : 1 < (Value.object (m :: ms₁)).depth + (Value.object (m :: ms₂)).depth + 2 := by
    omega
  obtain ⟨j₁, read₁⟩ := (reads_lineObject m ms₁ exact₁ _ room).result (by omega)
  obtain ⟨j₂, read₂⟩ := (reads_lineObject m ms₂ exact₂ _ room).result (by omega)
  rw [same, read₂] at read₁
  injection read₁ with pairs
  injection pairs with objects
  injection objects with members
  exact members.symm

theorem membersExact_rekey_last (ms : List (String × Value)) (k k' : String) (v : Value) :
    MembersExact (ms ++ [(k, v)]) = MembersExact (ms ++ [(k', v)]) := by
  induction ms with
  | nil => rfl
  | cons m ms ih =>
    obtain ⟨key, w⟩ := m
    simp only [List.cons_append, MembersExact, ih]

/-- In a body closed by a last entry of another name, the header is the target's. -/
theorem get_target_dataEntries (t : Target) (p : Program) (consts : ConstTable) {k : String}
    (other : k ≠ "target") (v : Value) :
    (Value.object (normalizeMembers [] (dataEntries t p consts ++ [(k, v)]))).get "target" =
      some t.header.normalize := by
  have fixed := fixed_ne_tableName t.arch
  simp only [List.mem_cons, List.not_mem_nil, or_false, forall_eq_or_imp, forall_eq] at fixed
  simp [Value.get, lookup_normalizeMembers, dataEntries, lookup_cons_ite, other.symm, fixed]

theorem sorted_eq_of_values_eq {c₁ c₂ : ConstTable} (same : c₁.values = c₂.values) :
    c₁.sorted = c₂.sorted := by
  have back := congrArg (List.map fun c : ConstValue => (c.name, c.value)) same
  simpa [ConstTable.values, List.map_map, Function.comp_def] using back

/-! ## What a body is made of -/

/-- What two data bodies are made of when they agree: the fields of the target that its header
writes, the program's three tables and the contents of the constant tables. -/
structure SameSource (t₁ t₂ : Target) (p₁ p₂ : Program) (c₁ c₂ : ConstTable) : Prop where
  os : t₁.os = t₂.os
  arch : t₁.arch = t₂.arch
  ptrSize : t₁.ptrSize = t₂.ptrSize
  pageSize : t₁.pageSize = t₂.pageSize
  numPages : t₁.numPages = t₂.numPages
  dataOffset : t₁.dataOffset = t₂.dataOffset
  syscallNumbers : t₁.syscallNumbers = t₂.syscallNumbers
  resources : p₁.resources = p₂.resources
  records : p₁.records = p₂.records
  syscalls : p₁.syscalls = p₂.syscalls
  consts : ∀ n, c₁.get? n = c₂.get? n

section Source

variable {t₁ t₂ : Target} {p₁ p₂ : Program} {c₁ c₂ : ConstTable}

/-- The body depends on its sources alone; in particular on the constants' contents, not on the
order they were bound in. -/
theorem dataBody_eq_of_sameSource (wf₁ : c₁.WellFormed) (wf₂ : c₂.WellFormed)
    (same : SameSource t₁ t₂ p₁ p₂ c₁ c₂) : dataBody t₁ p₁ c₁ = dataBody t₂ p₂ c₂ := by
  have header : t₁.header = t₂.header := by
    simp only [Target.header, same.os, same.arch, same.ptrSize, same.pageSize, same.numPages,
      same.dataOffset, same.syscallNumbers]
  have sorted := ConstTable.sorted_eq_of_contents wf₁ wf₂ same.consts
  simp only [dataBody, dataEntries, header, same.arch, same.resources, same.records,
    same.syscalls, sorted]

/-- The body determines its sources: read back, it gives the header fields, the three tables
and the constants sorted by name, which fix the contents of a table binding each name once. -/
theorem sameSource_of_dataBody_eq (targets : t₁.InRange ∧ t₂.InRange)
    (programs : p₁.InRange ∧ p₂.InRange) (wf₁ : c₁.WellFormed) (wf₂ : c₂.WellFormed)
    (same : dataBody t₁ p₁ c₁ = dataBody t₂ p₂ c₂) : SameSource t₁ t₂ p₁ p₂ c₁ c₂ := by
  -- close both bodies with the same revision entry, one of the first target's architecture
  have closed : dataBody t₁ p₁ c₁ ++ revisionEntry t₁.arch "" =
      dataBody t₂ p₂ c₂ ++ revisionEntry t₁.arch "" := by
    rw [same]
  rw [dataBody_append_revisionEntry, dataBody_append_revisionEntry] at closed
  have exact₁ : MembersExact (("autogenerated", textValue autogenerated) ::
      ((dataEntries t₁ p₁ c₁).tail ++ [(tableName "revision" t₁.arch, textValue "")])) :=
    dataMembers_exact targets.1 programs.1 c₁ ""
  have exact₂ : MembersExact (("autogenerated", textValue autogenerated) ::
      ((dataEntries t₂ p₂ c₂).tail ++ [(tableName "revision" t₁.arch, textValue "")])) := by
    show MembersExact (dataEntries t₂ p₂ c₂ ++ [(tableName "revision" t₁.arch, textValue "")])
    rw [membersExact_rekey_last _ _ (tableName "revision" t₂.arch)]
    exact dataMembers_exact targets.2 programs.2 c₂ ""
  have members : normalizeMembers [] (dataEntries t₁ p₁ c₁ ++
        [(tableName "revision" t₁.arch, textValue "")]) =
      normalizeMembers [] (dataEntries t₂ p₂ c₂ ++ [(tableName "revision" t₁.arch, textValue "")]) :=
    normalizeMembers_eq_of_lineObject_eq exact₁ exact₂ closed
  -- the headers agree, hence the architectures, and both texts are whole data definitions
  have other : tableName "revision" t₁.arch ≠ "target" :=
    ((fixed_ne_tableName t₁.arch "revision" (by simp)).2).symm
  have target₁ := get_target_dataEntries t₁ p₁ c₁ other (textValue "")
  have target₂ := get_target_dataEntries t₂ p₂ c₂ other (textValue "")
  rw [← members, target₁, Option.some.injEq] at target₂
  have headers : t₁.headerOf = t₂.headerOf := by
    simpa [Header.ofValue_header] using congrArg Header.ofValue target₂
  simp only [Target.headerOf, Header.mk.injEq] at headers
  obtain ⟨os, arch, ptrSize, pageSize, numPages, dataOffset, syscallNumbers, -⟩ := headers
  have whole : normalizeMembers [] (dataMembers t₁ p₁ c₁ "") =
      normalizeMembers [] (dataMembers t₂ p₂ c₂ "") := by
    rw [dataMembers, dataMembers, ← arch]
    exact members
  have decoded := DataDefinition.ofValue_dataMembers t₂ p₂ c₂ ""
  rw [← whole, ← arch, DataDefinition.ofValue_dataMembers, Option.some.injEq] at decoded
  simp only [DataDefinition.of, DataDefinition.mk.injEq] at decoded
  obtain ⟨-, -, resources, records, syscalls, values, -⟩ := decoded
  exact ⟨os, arch, ptrSize, pageSize, numPages, dataOffset, syscallNumbers, resources, records,
    syscalls, ConstTable.contents_of_sorted_eq wf₁ wf₂ (sorted_eq_of_values_eq values)⟩

end Source

/-! ## The stamp -/

theorem render_revision_line (template : CTemplate) (d : ArchData) :
    ∃ before after, template.render d =
      before ++ "#define " ++ template.macroPrefix ++ "REVISION \"" ++ d.revision ++ "\"\n" ++
        after := by
  refine ⟨"\n#if " ++ String.join (d.cArch.map fun m => "defined(" ++ m ++ ") || ") ++ "0\n" ++
    "#define " ++ template.archMacro ++ " \"" ++ d.arch ++ "\"\n",
    "#define " ++ template.macroPrefix ++ "PAGE_SIZE " ++ toString d.pageSize ++ "\n" ++
    "#define " ++ template.macroPrefix ++ "NUM_PAGES " ++ toString d.numPages ++ "\n" ++
    "#define " ++ template.macroPrefix ++ "DATA_OFFSET " ++ toString d.dataOffset ++ "\n" ++
    "unsigned " ++ template.countName ++ " = " ++ toString d.rows.length ++ ";\n" ++
    template.entryType ++ " " ++ template.tableName ++ "[] = \x7b\n" ++
    String.join (d.rows.map template.row) ++ "\x7d;\n#endif\n", ?_⟩
  unfold CTemplate.render
  simp only [String.append_assoc]

/-- How one emit stamps its artifacts with the revision. -/
structure Stamped (template : CTemplate) (t : Target) (p : Program) (consts : ConstTable) :
    Prop where
  revision : (p.emit t consts template).revision = Sha256.hexDigest (dataBody t p consts)
  digits : (p.emit t consts template).revision.length = 64 ∧
    ∀ c ∈ (p.emit t consts template).revision.toList, Sha256.IsLowerHex c
  dataDefinition : (p.emit t consts template).dataDefinition =
    dataBody t p consts ++ revisionEntry t.arch (p.emit t consts template).revision
  archData : ∃ before after, (p.emit t consts template).archData =
    before ++ "#define " ++ template.macroPrefix ++ "REVISION \"" ++
      (p.emit t consts template).revision ++ "\"\n" ++ after

theorem emit_stamped (template : CTemplate) (t : Target) (p : Program) (consts : ConstTable) :
    Stamped template t p consts :=
  ⟨rfl, Sha256.hexDigest_digits _, rfl, render_revision_line template _⟩

/-- Every emit stamps its data definition and its C table with the SHA-256 of the data body, in
64 lowercase hexadecimal digits. Two bodies are the same text exactly when they are made of the
same header fields, program tables and constant contents; so two emits whose sources differ
anywhere, one constant's value say, carry the same revision only when their bodies collide
under SHA-256. -/
theorem revision_stamps_source (template : CTemplate) {t₁ t₂ : Target} {p₁ p₂ : Program}
    {c₁ c₂ : ConstTable} (targets : t₁.InRange ∧ t₂.InRange) (programs : p₁.InRange ∧ p₂.InRange)
    (tables : c₁.WellFormed ∧ c₂.WellFormed) :
    Stamped template t₁ p₁ c₁ ∧ Stamped template t₂ p₂ c₂ ∧
      (dataBody t₁ p₁ c₁ = dataBody t₂ p₂ c₂ ↔ SameSource t₁ t₂ p₁ p₂ c₁ c₂) ∧
      (¬ SameSource t₁ t₂ p₁ p₂ c₁ c₂ →
        (p₁.emit t₁ c₁ template).revision = (p₂.emit t₂ c₂ template).revision →
        Sha256.Collision (dataBody t₁ p₁ c₁) (dataBody t₂ p₂ c₂)) := by
  have bodies : dataBody t₁ p₁ c₁ = dataBody t₂ p₂ c₂ ↔ SameSource t₁ t₂ p₁ p₂ c₁ c₂ :=
    ⟨sameSource_of_dataBody_eq targets programs tables.1 tables.2,
      dataBody_eq_of_sameSource tables.1 tables.2⟩
  refine ⟨emit_stamped template t₁ p₁ c₁, emit_stamped template t₂ p₂ c₂, bodies, ?_⟩
  intro differ revisions
  exact ⟨fun same => differ (bodies.mp same), revisions⟩

/-- Two tables that bind the one name to different values, under the default template. -/
theorem revision_stamps_constant_change :
    (Target.make "linux" "amd64" 8 []).InRange ∧ Program.InRange {} ∧
      (ConstTable.ofList [("__NR_open", 2)]).WellFormed ∧
      (ConstTable.ofList [("__NR_open", 3)]).WellFormed ∧
      ¬ SameSource (Target.make "linux" "amd64" 8 []) (Target.make "linux" "amd64" 8 []) {} {}
        (ConstTable.ofList [("__NR_open", 2)]) (ConstTable.ofList [("__NR_open", 3)]) ∧
      ((Program.emit {} (Target.make "linux" "amd64" 8 []) (ConstTable.ofList [("__NR_open", 2)])
          {}).revision =
        (Program.emit {} (Target.make "linux" "amd64" 8 []) (ConstTable.ofList [("__NR_open", 3)])
          {}).revision →
        Sha256.Collision (dataBody (Target.make "linux" "amd64" 8 []) {}
            (ConstTable.ofList [("__NR_open", 2)]))
          (dataBody (Target.make "linux" "amd64" 8 []) {} (ConstTable.ofList [("__NR_open", 3)]))) := by
  have target : (Target.make "linux" "amd64" 8 []).InRange := by
    simp only [Target.InRange, Target.make, Fits64]
    decide
  have program : Program.InRange {} := by simp [Program.InRange]
  have wf₂ : (ConstTable.ofList [("__NR_open", 2)]).WellFormed := by decide
  have wf₃ : (ConstTable.ofList [("__NR_open", 3)]).WellFormed := by decide
  have differ : ¬ SameSource (Target.make "linux" "amd64" 8 []) (Target.make "linux" "amd64" 8 [])
      {} {} (ConstTable.ofList [("__NR_open", 2)]) (ConstTable.ofList [("__NR_open", 3)]) :=
    fun same => absurd (same.consts "__NR_open") (by decide)
  exact ⟨target, program, wf₂, wf₃, differ,
    (revision_stamps_source {} ⟨target, target⟩ ⟨program, program⟩ ⟨wf₂, wf₃⟩).2.2.2 differ⟩

end SyscallTables
