import SyscallTables.Program.Basic
import SyscallTables.Target.Basic
import SyscallTables.Constant.Table
import SyscallTables.Json.Writer
import SyscallTables.Digest.Sha256

namespace SyscallTables

/-! The data definition of one target: a JSON document with one entry per line, each written
compactly with the fields of a record in their fixed order. It holds a marker, a header naming
the target and its tables, the tables of resources, structs, syscalls and constants (sorted by
name), and last the revision: the SHA-256 of everything written before that entry. -/

open Json

/-- A number as a JSON value. -/
def natValue (n : Nat) : Value := .number (.unsigned n)

/-- A string as a JSON value. -/
def textValue (s : String) : Value := .string s

/-- A constant as a JSON value. -/
def ConstValue.toValue (c : ConstValue) : Value :=
  .object [("name", textValue c.name), ("value", natValue c.value.toNat)]

/-- A type as a JSON value, its kind first. -/
def TypeDesc.toValue : TypeDesc → Value
  | .int s => .object [("kind", textValue "int"), ("size", natValue s)]
  | .const n v s =>
    .object [("kind", textValue "const"), ("name", textValue n), ("value", natValue v.toNat),
      ("size", natValue s)]
  | .flags vs s =>
    .object [("kind", textValue "flags"), ("values", .array (vs.map ConstValue.toValue)),
      ("size", natValue s)]
  | .ptr e s => .object [("kind", textValue "ptr"), ("elem", e.toValue), ("size", natValue s)]
  | .resource n s =>
    .object [("kind", textValue "resource"), ("name", textValue n), ("size", natValue s)]
  | .record n s a =>
    .object [("kind", textValue "struct"), ("name", textValue n), ("size", natValue s),
      ("align", natValue a)]
  | .recordRef n => .object [("kind", textValue "struct_ref"), ("name", textValue n)]

/-- A field as a JSON value. -/
def Field.toValue (f : Field) : Value :=
  .object [("name", textValue f.name), ("type", f.type.toValue)]

/-- A syscall as a JSON value. -/
def Syscall.toValue (c : Syscall) : Value :=
  .object [("id", natValue c.id), ("nr", natValue c.nr.toNat), ("name", textValue c.name),
    ("call_name", textValue c.callName), ("args", .array (c.args.map Field.toValue)),
    ("ret", (c.ret.map TypeDesc.toValue).getD .null)]

/-- A resource as a JSON value. -/
def Resource.toValue (r : Resource) : Value :=
  .object [("name", textValue r.name), ("base", r.base.toValue),
    ("values", .array (r.values.map fun v => natValue v.toNat))]

/-- A struct layout as a JSON value. -/
def RecordDesc.toValue (d : RecordDesc) : Value :=
  .object [("name", textValue d.name), ("union", .bool d.union), ("size", natValue d.size),
    ("align", natValue d.align), ("fields", .array (d.fields.map Field.toValue))]

/-- The marker that opens every data definition. -/
def autogenerated : String := "AUTOGENERATED FILE"

/-- The name of a table of an architecture. -/
def tableName (table arch : String) : String := table ++ "_" ++ arch

/-- The header naming the target and its tables. -/
def Target.header (t : Target) : Value :=
  .object [("os", textValue t.os), ("arch", textValue t.arch), ("ptr_size", natValue t.ptrSize),
    ("page_size", natValue t.pageSize), ("num_pages", natValue t.numPages),
    ("data_offset", natValue t.dataOffset), ("syscall_numbers", .bool t.syscallNumbers),
    ("revision", textValue (tableName "revision" t.arch)),
    ("resources", textValue (tableName "resources" t.arch)),
    ("struct_descs", textValue (tableName "struct_descs" t.arch)),
    ("syscalls", textValue (tableName "syscalls" t.arch)),
    ("consts", textValue (tableName "consts" t.arch))]

/-- The entries of a data definition before its revision. -/
def dataEntries (t : Target) (p : Program) (consts : ConstTable) : List (String × Value) :=
  [("autogenerated", textValue autogenerated),
   ("target", t.header),
   (tableName "resources" t.arch, .array (p.resources.map Resource.toValue)),
   (tableName "struct_descs" t.arch, .array (p.records.map RecordDesc.toValue)),
   (tableName "syscalls" t.arch, .array (p.syscalls.map Syscall.toValue)),
   (tableName "consts" t.arch,
    .array (consts.sorted.map fun (n, v) => ConstValue.toValue ⟨n, v⟩))]

/-- The data definition up to its revision entry. -/
def dataBody (t : Target) (p : Program) (consts : ConstTable) : String :=
  "\x7b\n" ++ String.join ((dataEntries t p consts).map fun (k, v) =>
    quote k ++ ": " ++ v.compact ++ ",\n")

/-- The revision entry that closes a data definition. -/
def revisionEntry (arch revision : String) : String :=
  quote (tableName "revision" arch) ++ ": " ++ quote revision ++ "\n\x7d\n"

end SyscallTables
