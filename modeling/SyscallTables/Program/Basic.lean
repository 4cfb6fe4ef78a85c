namespace SyscallTables

/-! Programs: the descriptions of one OS resolved and laid out for one target. Every type has
its size (and a struct its alignment) for the target's pointer width; syscalls carry their
numbers and are sorted by name; names of constants the target lacks are collected as
unsupported, sorted and each once. -/

/-- A named constant with its value. -/
structure ConstValue where
  name : String
  value : UInt64
  deriving DecidableEq, Repr, Inhabited

/-- A type laid out for a target. -/
inductive TypeDesc
  | int (size : Nat)
  | const (name : String) (value : UInt64) (size : Nat)
  | flags (values : List ConstValue) (size : Nat)
  | ptr (elem : TypeDesc) (size : Nat)
  | resource (name : String) (size : Nat)
  | record (name : String) (size : Nat) (align : Nat)
  /-- A struct seen through a pointer; its layout is not needed. -/
  | recordRef (name : String)
  deriving DecidableEq, Repr, Inhabited

namespace TypeDesc

/-- The size of a type; a struct seen through a pointer has none. -/
def size : TypeDesc → Nat
  | .int s | .const _ _ s | .flags _ s | .ptr _ s | .resource _ s | .record _ s _ => s
  | .recordRef _ => 0

/-- The alignment of a type: a struct's own, otherwise its size, at least one. -/
def align : TypeDesc → Nat
  | .record _ _ a => a
  | t => max t.size 1

end TypeDesc

/-- A struct field or a syscall argument. -/
structure Field where
  name : String
  type : TypeDesc
  deriving DecidableEq, Repr, Inhabited

/-- A syscall of a program: its place in name order, its number, and its typed signature. -/
structure Syscall where
  id : Nat
  nr : UInt64
  name : String
  callName : String
  args : List Field
  ret : Option TypeDesc
  deriving DecidableEq, Repr, Inhabited

/-- Calls whose names start with this are implemented by the executor itself. -/
def syntheticPrefix : String := "syz_"

/-- The number of a call the executor implements itself. -/
def syntheticNumber : UInt64 := 0xFFFFFFFFFFFFFFFF

/-- Whether the executor implements a call itself. -/
def Syscall.isSynthetic (c : Syscall) : Bool := c.callName.startsWith syntheticPrefix

/-- A resource of a program: its base type and special values. -/
structure Resource where
  name : String
  base : TypeDesc
  values : List UInt64
  deriving DecidableEq, Repr, Inhabited

/-- The layout of a struct or union. -/
structure RecordDesc where
  name : String
  union : Bool
  size : Nat
  align : Nat
  fields : List Field
  deriving DecidableEq, Repr, Inhabited

/-- Names sorted and each kept once. -/
def sortedNames (names : List String) : List String :=
  (names.mergeSort fun a b => decide (a ≤ b)).eraseDups

/-- A program for one target. -/
structure Program where
  syscalls : List Syscall := []
  resources : List Resource := []
  records : List RecordDesc := []
  /-- Constants the target lacks, sorted, each once. -/
  unsupported : List String := []
  deriving DecidableEq, Repr, Inhabited

end SyscallTables
