import Mathlib.Tactic.SplitIfs
import SyscallTables.Proofs.Json.ReadBack
import SyscallTables.Emit.Artifacts
import SyscallTables.Proofs.Constant.Contents

namespace SyscallTables

open Json

/-! What a data definition reads back as. Its text is an object written one member per line, so
it reads back exactly when it nests less than 128 levels deep: then every table decodes to what
was written, the constants sorted by name, and the header to the target and the names of its
tables. Deeper, reading stops at the recursion limit and the definition cannot be
canonicalized. -/

namespace Json

theorem lookup_cons_ite (k k' : String) (w : Value) (l : List (String × Value)) :
    ((k', w) :: l).lookup k = if k = k' then some w else l.lookup k := by
  have test : (k == k') = decide (k = k') := rfl
  by_cases same : k = k' <;> simp [List.lookup_cons, test, same]

theorem lookup_append_or (l₁ l₂ : List (String × Value)) (k : String) :
    (l₁ ++ l₂).lookup k = (l₁.lookup k).or (l₂.lookup k) := by
  induction l₁ with
  | nil => simp
  | cons m l₁ ih =>
    obtain ⟨k', w⟩ := m
    by_cases same : k = k' <;> simp [lookup_cons_ite, same, ih]

theorem lookup_insertMember (key k : String) (v : Value) (acc : List (String × Value)) :
    (insertMember key v acc).lookup k = if k = key then some v else acc.lookup k := by
  induction acc with
  | nil => simp only [insertMember, lookup_cons_ite, List.lookup_nil]
  | cons m acc ih =>
    obtain ⟨k', w⟩ := m
    rw [insertMember]
    split_ifs with before same other <;> simp_all [lookup_cons_ite]

/-- In the members reading gives back, a key holds the value of its last member, sorted
itself. -/
theorem lookup_normalizeMembers (acc ms : List (String × Value)) (k : String) :
    (normalizeMembers acc ms).lookup k =
      ((ms.reverse.lookup k).map Value.normalize).or (acc.lookup k) := by
  induction ms generalizing acc with
  | nil => simp [normalizeMembers]
  | cons m ms ih =>
    obtain ⟨k', v⟩ := m
    rw [normalizeMembers, ih, lookup_insertMember, List.reverse_cons, lookup_append_or]
    cases (ms.reverse.lookup k) with
    | some w => rfl
    | none => by_cases same : k = k' <;> simp [lookup_cons_ite, same]

theorem keys_insertMember (key : String) (v : Value) (acc : List (String × Value))
    (fresh : key ∉ acc.map (·.1)) :
    ((insertMember key v acc).map (·.1)).Perm (key :: acc.map (·.1)) := by
  induction acc with
  | nil => rfl
  | cons m acc ih =>
    obtain ⟨k', w⟩ := m
    simp only [List.map_cons, List.mem_cons, not_or] at fresh
    rw [insertMember]
    split_ifs with before same
    · rfl
    · exact absurd same fresh.1
    · simp only [List.map_cons]
      exact ((ih fresh.2).cons k').trans (List.Perm.swap key k' _)

/-- With distinct keys, reading keeps every member's key. -/
theorem keys_normalizeMembers (acc ms : List (String × Value))
    (distinct : (acc.map (·.1) ++ ms.map (·.1)).Nodup) :
    ((normalizeMembers acc ms).map (·.1)).Perm (acc.map (·.1) ++ ms.map (·.1)) := by
  induction ms generalizing acc with
  | nil => simp [normalizeMembers]
  | cons m ms ih =>
    obtain ⟨k, v⟩ := m
    rw [List.map_cons] at distinct
    obtain ⟨fresh, rest⟩ := List.nodup_cons.mp (List.perm_middle.nodup_iff.mp distinct)
    have inserted := keys_insertMember k v.normalize acc
      fun member => fresh (List.mem_append_left _ member)
    rw [normalizeMembers]
    refine (ih _ ?_).trans ?_
    · exact (inserted.append_right _).nodup_iff.mpr (List.nodup_cons.mpr ⟨fresh, rest⟩)
    · rw [List.map_cons]
      exact (inserted.append_right (ms.map (·.1))).trans List.perm_middle.symm

/-- With distinct keys, reading finds every member at its key, its value sorted. -/
theorem lookup_normalizeMembers_of_mem {ms : List (String × Value)}
    (distinct : (ms.map (·.1)).Nodup) {k : String} {v : Value} (member : (k, v) ∈ ms) :
    (normalizeMembers [] ms).lookup k = some v.normalize := by
  have reversed : (ms.reverse.map (·.1)).Nodup := by
    rw [List.map_reverse]
    exact (List.reverse_perm _).nodup_iff.mpr distinct
  rw [lookup_normalizeMembers, lookup_some_of_mem reversed (List.mem_reverse.mpr member)]
  rfl

theorem normalizeItems_eq_map (items : List Value) :
    normalizeItems items = items.map Value.normalize := by
  induction items with
  | nil => rfl
  | cons v items ih => rw [normalizeItems, ih, List.map_cons]

/-- The value a member of an object holds. -/
def Value.get (key : String) : Value → Option Value
  | .object members => members.lookup key
  | _ => none

/-- An unsigned integer. -/
def Value.nat? : Value → Option Nat
  | .number (.unsigned n) => some n
  | _ => none

/-- A string. -/
def Value.str? : Value → Option String
  | .string s => some s
  | _ => none

/-- A boolean. -/
def Value.bool? : Value → Option Bool
  | .bool b => some b
  | _ => none

/-- The items of an array, each decoded. -/
def Value.decodeItems (decode : Value → Option α) : Value → Option (List α)
  | .array items => items.mapM decode
  | _ => none

theorem mapM_map_of_inverse {f : α → Option β} {g : β → α} (xs : List β)
    (inverse : ∀ x ∈ xs, f (g x) = some x) : (xs.map g).mapM f = some xs := by
  induction xs with
  | nil => rfl
  | cons x xs ih =>
    rw [List.map_cons, List.mapM_cons, inverse x (by simp),
      ih fun y member => inverse y (by simp [member])]
    rfl

/-- An array written from a list decodes back to it when each item does. -/
theorem decodeItems_array {decode : Value → Option α} {encode : α → Value} (xs : List α)
    (inverse : ∀ x ∈ xs, decode (encode x).normalize = some x) :
    (Value.array (xs.map encode)).normalize.decodeItems decode = some xs := by
  rw [Value.normalize, normalizeItems_eq_map, Value.decodeItems, List.map_map]
  exact mapM_map_of_inverse xs inverse

end Json

/-! ## Decoding the tables -/

/-- A named constant from its JSON form. -/
def ConstValue.ofValue (v : Value) : Option ConstValue := do
  let name ← (v.get "name").bind Value.str?
  let value ← (v.get "value").bind Value.nat?
  pure ⟨name, UInt64.ofNat value⟩

mutual
/-- A type from its JSON form, chosen by its kind. -/
def TypeDesc.ofValue : Value → Option TypeDesc
  | .object members =>
    let nat (key : String) := (members.lookup key).bind Value.nat?
    let str (key : String) := (members.lookup key).bind Value.str?
    match str "kind" with
    | some "int" => return .int (← nat "size")
    | some "const" => return .const (← str "name") (UInt64.ofNat (← nat "value")) (← nat "size")
    | some "flags" =>
      return .flags (← (members.lookup "values").bind (Value.decodeItems ConstValue.ofValue))
        (← nat "size")
    | some "ptr" => return .ptr (← elemOf members) (← nat "size")
    | some "resource" => return .resource (← str "name") (← nat "size")
    | some "struct" => return .record (← str "name") (← nat "size") (← nat "align")
    | some "struct_ref" => return .recordRef (← str "name")
    | _ => none
  | _ => none

/-- The type a pointer points to, from the members of its JSON form. -/
def elemOf : List (String × Value) → Option TypeDesc
  | [] => none
  | (k, v) :: rest => if k = "elem" then TypeDesc.ofValue v else elemOf rest
end

/-- A field from its JSON form. -/
def Field.ofValue (v : Value) : Option Field := do
  let name ← (v.get "name").bind Value.str?
  let type ← (v.get "type").bind TypeDesc.ofValue
  pure ⟨name, type⟩

/-- A return type from its JSON form: none for null. -/
def returnOf : Value → Option (Option TypeDesc)
  | .null => some none
  | v => (TypeDesc.ofValue v).map some

/-- A syscall from its JSON form. -/
def Syscall.ofValue (v : Value) : Option Syscall := do
  let id ← (v.get "id").bind Value.nat?
  let nr ← (v.get "nr").bind Value.nat?
  let name ← (v.get "name").bind Value.str?
  let callName ← (v.get "call_name").bind Value.str?
  let args ← (v.get "args").bind (Value.decodeItems Field.ofValue)
  let ret ← (v.get "ret").bind returnOf
  pure ⟨id, UInt64.ofNat nr, name, callName, args, ret⟩

/-- A resource from its JSON form. -/
def Resource.ofValue (v : Value) : Option Resource := do
  let name ← (v.get "name").bind Value.str?
  let base ← (v.get "base").bind TypeDesc.ofValue
  let values ← (v.get "values").bind (Value.decodeItems fun n => n.nat?.map UInt64.ofNat)
  pure ⟨name, base, values⟩

/-- A struct layout from its JSON form. -/
def RecordDesc.ofValue (v : Value) : Option RecordDesc := do
  let name ← (v.get "name").bind Value.str?
  let union ← (v.get "union").bind Value.bool?
  let size ← (v.get "size").bind Value.nat?
  let align ← (v.get "align").bind Value.nat?
  let fields ← (v.get "fields").bind (Value.decodeItems Field.ofValue)
  pure ⟨name, union, size, align, fields⟩

theorem elemOf_eq (ms : List (String × Value)) :
    elemOf ms = (ms.lookup "elem").bind TypeDesc.ofValue := by
  induction ms with
  | nil => rfl
  | cons m ms ih =>
    obtain ⟨k, v⟩ := m
    by_cases named : k = "elem"
    · subst named
      simp [elemOf]
    · simp [elemOf, lookup_cons_ite, named, ih, Ne.symm named]

theorem ConstValue.ofValue_toValue (c : ConstValue) :
    ConstValue.ofValue c.toValue.normalize = some c := by
  simp [ConstValue.toValue, ConstValue.ofValue, Value.normalize, Value.get,
    lookup_normalizeMembers, lookup_cons_ite, textValue, natValue, Value.str?, Value.nat?]

theorem TypeDesc.ofValue_toValue (t : TypeDesc) :
    TypeDesc.ofValue t.toValue.normalize = some t := by
  induction t with
  | ptr e s ih =>
    simp [TypeDesc.toValue, Value.normalize, TypeDesc.ofValue, lookup_normalizeMembers,
      lookup_cons_ite, textValue, natValue, Value.str?, Value.nat?, elemOf_eq, ih]
  | flags vs s =>
    have values := decodeItems_array vs fun c _ => ConstValue.ofValue_toValue c
    simp only [Value.normalize] at values
    simp [TypeDesc.toValue, Value.normalize, TypeDesc.ofValue, lookup_normalizeMembers,
      lookup_cons_ite, textValue, natValue, Value.str?, Value.nat?, values]
  | _ =>
    simp [TypeDesc.toValue, Value.normalize, TypeDesc.ofValue, lookup_normalizeMembers,
      lookup_cons_ite, textValue, natValue, Value.str?, Value.nat?]

theorem Field.ofValue_toValue (f : Field) : Field.ofValue f.toValue.normalize = some f := by
  simp [Field.toValue, Field.ofValue, Value.normalize, Value.get, lookup_normalizeMembers,
    lookup_cons_ite, textValue, Value.str?, TypeDesc.ofValue_toValue]

theorem returnOf_toValue (ret : Option TypeDesc) :
    returnOf ((ret.map TypeDesc.toValue).getD .null).normalize = some ret := by
  cases ret with
  | none => rfl
  | some t =>
    have written : ∃ members, t.toValue.normalize = .object members := by
      cases t <;> exact ⟨_, rfl⟩
    obtain ⟨members, object⟩ := written
    simp only [Option.map_some, Option.getD_some]
    rw [object, returnOf, ← object, TypeDesc.ofValue_toValue]
    · rfl
    · nofun

theorem Syscall.ofValue_toValue (c : Syscall) : Syscall.ofValue c.toValue.normalize = some c := by
  have args := decodeItems_array c.args fun f _ => Field.ofValue_toValue f
  simp only [Value.normalize] at args
  simp [Syscall.toValue, Syscall.ofValue, Value.normalize, Value.get, lookup_normalizeMembers,
    lookup_cons_ite, textValue, natValue, Value.str?, Value.nat?, args, returnOf_toValue]

theorem Resource.ofValue_toValue (r : Resource) : Resource.ofValue r.toValue.normalize = some r := by
  have values := @decodeItems_array _ (fun n => n.nat?.map UInt64.ofNat)
    (fun v => natValue v.toNat) r.values fun v _ => by simp [natValue, Value.normalize, Value.nat?]
  simp only [Value.normalize] at values
  simp [Resource.toValue, Resource.ofValue, Value.normalize, Value.get, lookup_normalizeMembers,
    lookup_cons_ite, textValue, Value.str?, TypeDesc.ofValue_toValue, values]

theorem RecordDesc.ofValue_toValue (d : RecordDesc) :
    RecordDesc.ofValue d.toValue.normalize = some d := by
  have fields := decodeItems_array d.fields fun f _ => Field.ofValue_toValue f
  simp only [Value.normalize] at fields
  simp [RecordDesc.toValue, RecordDesc.ofValue, Value.normalize, Value.get,
    lookup_normalizeMembers, lookup_cons_ite, textValue, natValue, Value.str?, Value.nat?,
    Value.bool?, fields]

/-- What the header of a data definition names: the target and its tables. -/
structure Header where
  os : String
  arch : String
  ptrSize : Nat
  pageSize : Nat
  numPages : Nat
  dataOffset : Nat
  syscallNumbers : Bool
  revision : String
  resources : String
  structDescs : String
  syscalls : String
  consts : String
  deriving DecidableEq, Repr

/-- The header of a data definition from its JSON form. -/
def Header.ofValue (v : Value) : Option Header := do
  let str (key : String) := (v.get key).bind Value.str?
  let nat (key : String) := (v.get key).bind Value.nat?
  pure ⟨← str "os", ← str "arch", ← nat "ptr_size", ← nat "page_size", ← nat "num_pages",
    ← nat "data_offset", ← (v.get "syscall_numbers").bind Value.bool?, ← str "revision",
    ← str "resources", ← str "struct_descs", ← str "syscalls", ← str "consts"⟩

/-- The header a data definition gives a target. -/
def Target.headerOf (t : Target) : Header :=
  ⟨t.os, t.arch, t.ptrSize, t.pageSize, t.numPages, t.dataOffset, t.syscallNumbers,
    tableName "revision" t.arch, tableName "resources" t.arch, tableName "struct_descs" t.arch,
    tableName "syscalls" t.arch, tableName "consts" t.arch⟩

theorem Header.ofValue_header (t : Target) : Header.ofValue t.header.normalize = some t.headerOf := by
  simp [Target.header, Header.ofValue, Value.normalize, Value.get, lookup_normalizeMembers,
    lookup_cons_ite, textValue, natValue, Value.str?, Value.nat?, Value.bool?, Target.headerOf]

/-! ## The keys of a data definition -/

/-- The keys of a data definition, in the order it writes them. -/
def dataKeys (arch : String) : List String :=
  ["autogenerated", "target", tableName "resources" arch, tableName "struct_descs" arch,
    tableName "syscalls" arch, tableName "consts" arch, tableName "revision" arch]

theorem tableName_toList (table arch : String) :
    (tableName table arch).toList = table.toList ++ '_' :: arch.toList := by
  simp [tableName]

@[simp] theorem tableName_inj {a b arch : String} : tableName a arch = tableName b arch ↔ a = b := by
  constructor
  · intro same
    have lists : (a.toList ++ ['_']) ++ arch.toList = (b.toList ++ ['_']) ++ arch.toList := by
      simpa [tableName_toList] using congrArg String.toList same
    exact String.toList_inj.mp (List.append_cancel_right (List.append_cancel_right lists))
  · rintro rfl
    rfl

/-- A key that starts otherwise than a table is no name of that table. -/
theorem ne_tableName {key table : String} (arch : String)
    (heads : key.toList.head? ≠ table.toList.head?) (nonempty : table ≠ "") :
    key ≠ tableName table arch := by
  intro same
  apply heads
  rw [same, tableName_toList]
  cases named : table.toList with
  | nil => exact absurd (String.toList_eq_nil_iff.mp named) nonempty
  | cons c cs => rfl

/-- The two fixed keys of a data definition are no names of its tables. -/
theorem fixed_ne_tableName (arch : String) :
    ∀ table ∈ ["resources", "struct_descs", "syscalls", "consts", "revision"],
      "autogenerated" ≠ tableName table arch ∧ "target" ≠ tableName table arch := by
  intro table member
  simp only [List.mem_cons, List.not_mem_nil, or_false] at member
  rcases member with rfl | rfl | rfl | rfl | rfl <;>
    exact ⟨ne_tableName arch (by decide) (by decide), ne_tableName arch (by decide) (by decide)⟩

theorem dataKeys_nodup (arch : String) : (dataKeys arch).Nodup := by
  have fixed := fixed_ne_tableName arch
  simp only [List.mem_cons, List.not_mem_nil, or_false, forall_eq_or_imp, forall_eq] at fixed
  simp [dataKeys, fixed]

/-! ## Numbers within 64 bits -/

/-- A number that fits 64 bits, which reading keeps an exact integer. -/
def Fits64 (n : Nat) : Prop := n < Nat.pow 2 64

/-- Every size and alignment of a type fits 64 bits. -/
def TypeDesc.InRange : TypeDesc → Prop
  | .int s | .const _ _ s | .flags _ s | .resource _ s => Fits64 s
  | .ptr e s => e.InRange ∧ Fits64 s
  | .record _ s a => Fits64 s ∧ Fits64 a
  | .recordRef _ => True

/-- The number and the types of a syscall fit 64 bits. -/
def Syscall.InRange (c : Syscall) : Prop :=
  Fits64 c.id ∧ (∀ f ∈ c.args, f.type.InRange) ∧ ∀ t ∈ c.ret, t.InRange

/-- The size, alignment and field types of a struct fit 64 bits. -/
def RecordDesc.InRange (d : RecordDesc) : Prop :=
  Fits64 d.size ∧ Fits64 d.align ∧ ∀ f ∈ d.fields, f.type.InRange

/-- Every number a program holds fits 64 bits. -/
def Program.InRange (p : Program) : Prop :=
  (∀ c ∈ p.syscalls, c.InRange) ∧ (∀ r ∈ p.resources, r.base.InRange) ∧
    ∀ d ∈ p.records, d.InRange

/-- Every number of a target's header fits 64 bits. -/
def Target.InRange (t : Target) : Prop :=
  Fits64 t.ptrSize ∧ Fits64 t.pageSize ∧ Fits64 t.numPages ∧ Fits64 t.dataOffset

theorem itemsExact_map {f : α → Value} (xs : List α) (exact : ∀ x ∈ xs, (f x).Exact) :
    ItemsExact (xs.map f) := by
  induction xs with
  | nil => trivial
  | cons x xs ih =>
    exact ⟨exact x (by simp), ih fun y member => exact y (by simp [member])⟩

theorem uint64_fits (v : UInt64) : Fits64 v.toNat := v.toNat_lt_size

theorem ConstValue.toValue_exact (c : ConstValue) : c.toValue.Exact := by
  simp [ConstValue.toValue, Value.Exact, MembersExact, textValue, natValue]
  exact uint64_fits c.value

theorem TypeDesc.toValue_exact (t : TypeDesc) (inRange : t.InRange) : t.toValue.Exact := by
  induction t with
  | ptr e s ih =>
    obtain ⟨inner, fits⟩ := inRange
    simp [TypeDesc.toValue, Value.Exact, MembersExact, textValue, natValue]
    exact ⟨ih inner, fits⟩
  | flags vs s =>
    simp [TypeDesc.toValue, Value.Exact, MembersExact, textValue, natValue]
    exact ⟨itemsExact_map vs fun c _ => c.toValue_exact, inRange⟩
  | const name value s =>
    simp only [TypeDesc.toValue, Value.Exact, MembersExact, textValue, natValue]
    exact ⟨trivial, trivial, uint64_fits value, inRange, trivial⟩
  | record name s a =>
    simp only [TypeDesc.toValue, Value.Exact, MembersExact, textValue, natValue]
    exact ⟨trivial, trivial, inRange.1, inRange.2, trivial⟩
  | int s | resource name s =>
    simpa [TypeDesc.InRange, TypeDesc.toValue, Value.Exact, MembersExact, textValue, natValue,
      Fits64] using inRange
  | recordRef name => simp [TypeDesc.toValue, Value.Exact, MembersExact, textValue]

theorem Field.toValue_exact (f : Field) (inRange : f.type.InRange) : f.toValue.Exact := by
  simp [Field.toValue, Value.Exact, MembersExact, textValue]
  exact f.type.toValue_exact inRange

theorem Syscall.toValue_exact (c : Syscall) (inRange : c.InRange) : c.toValue.Exact := by
  obtain ⟨id, args, ret⟩ := inRange
  have returned : ((c.ret.map TypeDesc.toValue).getD .null).Exact := by
    cases named : c.ret with
    | none => trivial
    | some t => exact t.toValue_exact (ret t named)
  simp only [Syscall.toValue, Value.Exact, MembersExact, textValue, natValue]
  exact ⟨id, uint64_fits c.nr, trivial, trivial,
    itemsExact_map c.args fun f member => f.toValue_exact (args f member), returned, trivial⟩

theorem Resource.toValue_exact (r : Resource) (inRange : r.base.InRange) : r.toValue.Exact := by
  simp only [Resource.toValue, Value.Exact, MembersExact, textValue]
  exact ⟨trivial, r.base.toValue_exact inRange,
    itemsExact_map r.values fun v _ => uint64_fits v, trivial⟩

theorem RecordDesc.toValue_exact (d : RecordDesc) (inRange : d.InRange) : d.toValue.Exact := by
  obtain ⟨size, align, fields⟩ := inRange
  simp only [RecordDesc.toValue, Value.Exact, MembersExact, textValue, natValue]
  exact ⟨trivial, trivial, size, align,
    itemsExact_map d.fields fun f member => f.toValue_exact (fields f member), trivial⟩

theorem Target.header_exact (t : Target) (inRange : t.InRange) : t.header.Exact := by
  obtain ⟨ptrSize, pageSize, numPages, dataOffset⟩ := inRange
  simp only [Target.header, Value.Exact, MembersExact, textValue, natValue]
  exact ⟨trivial, trivial, ptrSize, pageSize, numPages, dataOffset, trivial, trivial, trivial,
    trivial, trivial, trivial, trivial⟩

/-! ## The document -/

/-- The members of a data definition: its entries, then its revision. -/
def dataMembers (t : Target) (p : Program) (consts : ConstTable) (revision : String) :
    List (String × Value) :=
  dataEntries t p consts ++ [(tableName "revision" t.arch, textValue revision)]

theorem dataMembers_keys (t : Target) (p : Program) (consts : ConstTable) (revision : String) :
    (dataMembers t p consts revision).map (·.1) = dataKeys t.arch := rfl

theorem dataMembers_exact {t : Target} {p : Program} (targetInRange : t.InRange)
    (programInRange : p.InRange) (consts : ConstTable) (revision : String) :
    MembersExact (dataMembers t p consts revision) := by
  obtain ⟨syscalls, resources, records⟩ := programInRange
  simp only [dataMembers, dataEntries, List.cons_append, List.nil_append, MembersExact,
    textValue, Value.Exact]
  exact ⟨trivial, t.header_exact targetInRange,
    itemsExact_map p.resources fun r member => r.toValue_exact (resources r member),
    itemsExact_map p.records fun d member => d.toValue_exact (records d member),
    itemsExact_map p.syscalls fun c member => c.toValue_exact (syscalls c member),
    itemsExact_map consts.sorted fun c _ => ConstValue.toValue_exact ⟨c.1, c.2⟩, trivial, trivial⟩

theorem membersDepth_append_string (ms : List (String × Value)) (k s : String) :
    membersDepth (ms ++ [(k, .string s)]) = membersDepth ms := by
  induction ms with
  | nil => rfl
  | cons m ms ih =>
    obtain ⟨k', v⟩ := m
    simp only [List.cons_append, membersDepth, ih]

theorem dataMembers_depth (t : Target) (p : Program) (consts : ConstTable) (revision : String) :
    (Value.object (dataMembers t p consts revision)).depth =
      (Value.object (dataEntries t p consts)).depth := by
  simp only [Value.depth, dataMembers, textValue, membersDepth_append_string]

/-- Entries written one per line, each ended by a comma, then a last text entry that closes
the object: the members written one per line. -/
theorem lines_eq_lineMembers (line : String × Value → String)
    (written : ∀ k v, line (k, v) = quote k ++ ": " ++ v.compact ++ ",\n")
    (m : String × Value) (es : List (String × Value)) (k s : String) :
    String.join ((m :: es).map line) ++ (quote k ++ ": " ++ quote s ++ "\n\x7d\n") =
      lineMembers m (es ++ [(k, textValue s)]) ++ "\n\x7d\n" := by
  induction es generalizing m with
  | nil => simp [lineMembers, written, textValue, Value.compact, String.append_assoc]
  | cons e es ih =>
    rw [List.map_cons, String.join_cons, String.append_assoc, ih]
    simp [lineMembers, written, String.append_assoc]

/-- A data body closed by a revision entry is an object written one member per line, the
revision its last member. -/
theorem dataBody_append_revisionEntry (t : Target) (p : Program) (consts : ConstTable)
    (arch revision : String) :
    dataBody t p consts ++ revisionEntry arch revision =
      lineObject ("autogenerated", textValue autogenerated)
        ((dataEntries t p consts).tail ++ [(tableName "revision" arch, textValue revision)]) := by
  have entries : dataEntries t p consts =
      ("autogenerated", textValue autogenerated) :: (dataEntries t p consts).tail := rfl
  rw [dataBody, revisionEntry, entries, List.tail_cons, lineObject, String.append_assoc,
    lines_eq_lineMembers, String.append_assoc]
  intro k v
  rfl

/-- The text of a data definition is its members written one per line. -/
theorem dataDefinition_eq (p : Program) (t : Target) (consts : ConstTable)
    (template : CTemplate) :
    (p.emit t consts template).dataDefinition =
      lineObject ("autogenerated", textValue autogenerated)
        (dataMembers t p consts (p.emit t consts template).revision).tail :=
  dataBody_append_revisionEntry t p consts t.arch _

/-- A data definition of numbers within 64 bits reads back as its members sorted by key when
it nests less than 128 levels deep, and stops at the recursion limit otherwise. -/
theorem parse_dataDefinition {p : Program} {t : Target} (programInRange : p.InRange)
    (targetInRange : t.InRange) (consts : ConstTable) (template : CTemplate) :
    ((Value.object (dataEntries t p consts)).depth < 128 →
        parse (p.emit t consts template).dataDefinition = .ok (.object (normalizeMembers []
          (dataMembers t p consts (p.emit t consts template).revision)))) ∧
      (128 ≤ (Value.object (dataEntries t p consts)).depth → ∃ line column,
        parse (p.emit t consts template).dataDefinition =
          .error ⟨.recursionLimitExceeded, line, column⟩) := by
  rw [dataDefinition_eq, ← dataMembers_depth t p consts (p.emit t consts template).revision]
  generalize (p.emit t consts template).revision = revision
  have members : ("autogenerated", textValue autogenerated) ::
      (dataMembers t p consts revision).tail = dataMembers t p consts revision := rfl
  have read := parse_lineObject _ _
    (members ▸ dataMembers_exact targetInRange programInRange consts revision)
  rwa [members] at read

/-! ## Decoding a data definition -/

/-- The constants of a table as a data definition lists them: sorted by name. -/
def ConstTable.values (consts : ConstTable) : List ConstValue :=
  consts.sorted.map fun (n, v) => ⟨n, v⟩

/-- What a data definition holds. -/
structure DataDefinition where
  marker : String
  header : Header
  resources : List Resource
  records : List RecordDesc
  syscalls : List Syscall
  consts : List ConstValue
  revision : String
  deriving DecidableEq, Repr

/-- A data definition from its JSON form, its tables named for an architecture. -/
def DataDefinition.ofValue (arch : String) (v : Value) : Option DataDefinition := do
  let table (name : String) := v.get (tableName name arch)
  pure ⟨← (v.get "autogenerated").bind Value.str?, ← (v.get "target").bind Header.ofValue,
    ← (table "resources").bind (Value.decodeItems Resource.ofValue),
    ← (table "struct_descs").bind (Value.decodeItems RecordDesc.ofValue),
    ← (table "syscalls").bind (Value.decodeItems Syscall.ofValue),
    ← (table "consts").bind (Value.decodeItems ConstValue.ofValue),
    ← (table "revision").bind Value.str?⟩

/-- What the data definition of a program holds. -/
def DataDefinition.of (t : Target) (p : Program) (consts : ConstTable) (revision : String) :
    DataDefinition :=
  ⟨autogenerated, t.headerOf, p.resources, p.records, p.syscalls, consts.values, revision⟩

/-- Each table of a data definition decodes to what was written into it. -/
theorem DataDefinition.ofValue_dataMembers (t : Target) (p : Program) (consts : ConstTable)
    (revision : String) :
    DataDefinition.ofValue t.arch (.object (normalizeMembers [] (dataMembers t p consts revision))) =
      some (DataDefinition.of t p consts revision) := by
  have distinct : ((dataMembers t p consts revision).map (·.1)).Nodup := by
    rw [dataMembers_keys]
    exact dataKeys_nodup t.arch
  have read : ∀ k v, (k, v) ∈ dataMembers t p consts revision →
      (Value.object (normalizeMembers [] (dataMembers t p consts revision))).get k =
        some v.normalize :=
    fun _ _ member => lookup_normalizeMembers_of_mem distinct member
  have constValues : (consts.sorted.map fun (n, v) => ConstValue.toValue ⟨n, v⟩) =
      consts.values.map ConstValue.toValue := by
    rw [ConstTable.values, List.map_map]
    rfl
  simp only [DataDefinition.ofValue,
    read "autogenerated" (textValue autogenerated) (by simp [dataMembers, dataEntries]),
    read "target" t.header (by simp [dataMembers, dataEntries]),
    read (tableName "resources" t.arch) (.array (p.resources.map Resource.toValue))
      (by simp [dataMembers, dataEntries]),
    read (tableName "struct_descs" t.arch) (.array (p.records.map RecordDesc.toValue))
      (by simp [dataMembers, dataEntries]),
    read (tableName "syscalls" t.arch) (.array (p.syscalls.map Syscall.toValue))
      (by simp [dataMembers, dataEntries]),
    read (tableName "consts" t.arch) (.array (consts.values.map ConstValue.toValue))
      (by simp [dataMembers, dataEntries, constValues]),
    read (tableName "revision" t.arch) (textValue revision) (by simp [dataMembers])]
  simp only [Option.bind_some, Header.ofValue_header,
    decodeItems_array p.resources fun r _ => r.ofValue_toValue,
    decodeItems_array p.records fun d _ => d.ofValue_toValue,
    decodeItems_array p.syscalls fun c _ => c.ofValue_toValue,
    decodeItems_array consts.values fun c _ => c.ofValue_toValue]
  simp [textValue, Value.normalize, Value.str?, DataDefinition.of]

/-- Canonicalizing a text that reads as a value writes that value. -/
theorem canonicalize_of_parse {raw : String} {v : Value} (read : parse raw = .ok v) :
    canonicalize raw = .ok (v.pretty 0 ++ "\n") := by
  rw [canonicalize, read]
  rfl

/-- Canonicalizing fails as reading does. -/
theorem canonicalize_of_parse_error {raw : String} {e : Error} (failed : parse raw = .error e) :
    canonicalize raw = .error e := by
  rw [canonicalize, failed]
  rfl

/-- A pointer [n] levels above a byte. -/
def nestedPointer : Nat → TypeDesc
  | 0 => .int 1
  | n + 1 => .ptr (nestedPointer n) 8

theorem nestedPointer_depth (n : Nat) : (nestedPointer n).toValue.depth = n + 1 := by
  induction n with
  | zero => rfl
  | succ n ih =>
    simp [nestedPointer, TypeDesc.toValue, Value.depth, membersDepth, textValue, natValue, ih]

theorem nestedPointer_inRange (n : Nat) : (nestedPointer n).InRange := by
  induction n with
  | zero => simp [nestedPointer, TypeDesc.InRange, Fits64]
  | succ n ih => exact ⟨ih, by simp [Fits64]⟩

/-- The program of one syscall whose argument points [n] levels deep. -/
def pointerChain (n : Nat) : Program :=
  { syscalls := [⟨0, syntheticNumber, "syz_deep", "syz_deep", [⟨"p", nestedPointer n⟩], none⟩] }

theorem pointerChain_inRange (n : Nat) : (pointerChain n).InRange := by
  refine ⟨?_, by simp [pointerChain], by simp [pointerChain]⟩
  simp [pointerChain, Syscall.InRange, Fits64, nestedPointer_inRange]

/-- Its data definition nests six levels more: the argument's field, the arguments, the
syscall, the table and the document. -/
theorem pointerChain_depth (t : Target) (n : Nat) :
    (Value.object (dataEntries t (pointerChain n) {})).depth = n + 6 := by
  simp [dataEntries, pointerChain, Value.depth, membersDepth, itemsDepth, Syscall.toValue,
    Field.toValue, nestedPointer_depth, Target.header, textValue, natValue, ConstTable.sorted]

end SyscallTables
