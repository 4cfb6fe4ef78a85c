import SyscallTables.Description.TypeExpr
import SyscallTables.Source.Position

namespace SyscallTables

/-! Descriptions as read from their files: resources (integer-like types with special values),
structs and unions with typed fields, and syscalls with typed arguments and an optional return
type. Every item keeps the position it was read from, so later checks can point at it. -/

namespace Description

/-- A struct field or a syscall argument; its position is that of its type. -/
structure Field where
  position : Position
  name : String
  type : TypeExpr
  deriving Repr, Inhabited

/-- A resource: a named integer type over a base type, with special values that are integer
literals or constant names. -/
structure Resource where
  position : Position
  name : String
  base : TypeExpr
  values : List (Position × String)
  deriving Repr, Inhabited

/-- A struct or a union. -/
structure Record where
  position : Position
  name : String
  union : Bool
  fields : List Field
  deriving Repr, Inhabited

/-- A syscall; its name may carry a variant after `$`. -/
structure Syscall where
  position : Position
  name : String
  args : List Field
  ret : Option (Position × TypeExpr)
  deriving Repr, Inhabited

/-- The call a syscall makes: the first piece of its name split at `$`. -/
def Syscall.callName (c : Syscall) : String := (c.name.splitToList (· == '$')).headD c.name

/-- The types every description may use without defining them. -/
def builtinTypes : List String :=
  ["int8", "int16", "int32", "int64", "intptr", "const", "flags", "ptr"]

end Description

/-- All descriptions of one operating system, with the files they came from. -/
structure Description where
  files : List String := []
  resources : List Description.Resource := []
  records : List Description.Record := []
  syscalls : List Description.Syscall := []
  deriving Repr, Inhabited

end SyscallTables
