import Mathlib.Logic.Relation
import SyscallTables.Program.Compile

namespace SyscallTables

/-! What descriptions depend on, read off the descriptions alone: the constants each type
names, the names it uses as types, and the structs reached from those. A target supports a
syscall or a struct when it binds every constant that the item and every struct it reaches
name. -/

namespace TypeExpr

/-- The constant an argument names: an identifier that is not an integer literal. -/
def constantName? : TypeExpr → Option String
  | .ident n => if (Literal.parse n).isSome then none else some n
  | .apply .. => none

/-- The constants a type names: the first argument of `const` and every argument of `flags`,
also behind pointers. -/
def constants : TypeExpr → List String
  | .ident _ => []
  | .apply name args =>
    if name = "const" then (args.head?.bind constantName?).toList
    else if name = "flags" then args.filterMap constantName?
    else if name = "ptr" then
      match args with
      | [elem] => elem.constants
      | _ => []
    else []

/-- The names a type uses as types: its own name when it has no arguments, and what a
pointer points to. -/
def typeNames : TypeExpr → List String
  | .ident name => [name]
  | .apply name args =>
    if name = "ptr" then
      match args with
      | [elem] => elem.typeNames
      | _ => []
    else []

section Shapes

variable (name : String) (args : List TypeExpr) (elem : TypeExpr)

@[simp] theorem constants_ident : (ident name).constants = [] := by unfold constants; rfl

@[simp] theorem constants_const :
    (apply "const" args).constants = (args.head?.bind constantName?).toList := by
  unfold constants; simp

@[simp] theorem constants_flags : (apply "flags" args).constants = args.filterMap constantName? := by
  unfold constants; simp

@[simp] theorem constants_ptr : (apply "ptr" [elem]).constants = elem.constants := by
  rw [constants.eq_2]; simp

@[simp] theorem typeNames_ident : (ident name).typeNames = [name] := by unfold typeNames; rfl

@[simp] theorem typeNames_ptr : (apply "ptr" [elem]).typeNames = elem.typeNames := by
  rw [typeNames.eq_2]; simp

@[simp] theorem typeNames_apply {name : String} (other : name ≠ "ptr") :
    (apply name args).typeNames = [] := by
  unfold typeNames; simp [other]

end Shapes

/-- Every type applied to arguments has at least one. -/
inductive WellFormed : TypeExpr → Prop
  | ident (name : String) : WellFormed (.ident name)
  | apply (name : String) (args : List TypeExpr) (nonempty : args ≠ [])
      (each : ∀ a ∈ args, WellFormed a) : WellFormed (.apply name args)

end TypeExpr

namespace Description

/-- The names of the structs. -/
def recordNames (d : Description) : List String := d.records.map (·.name)

/-- The constants the fields of a struct name. -/
def Record.constants (r : Record) : List String := r.fields.flatMap (·.type.constants)

/-- The names the fields of a struct use as types. -/
def Record.typeNames (r : Record) : List String := r.fields.flatMap (·.type.typeNames)

/-- The constant that numbers a syscall: `__NR_<call>`, unless the call is synthetic or the
target does not dispatch by number. -/
def Syscall.numberConstant (c : Syscall) (target : Target) : List String :=
  if !c.callName.startsWith syntheticPrefix && target.syscallNumbers then
    ["__NR_" ++ c.callName]
  else []

/-- The constants a syscall names in its arguments and return type, and its number's. -/
def Syscall.constants (c : Syscall) (target : Target) : List String :=
  c.args.flatMap (·.type.constants) ++ ((c.ret.map (·.2.constants)).getD []) ++
    c.numberConstant target

/-- The names a syscall's arguments and return type use as types. -/
def Syscall.typeNames (c : Syscall) : List String :=
  c.args.flatMap (·.type.typeNames) ++ ((c.ret.map (·.2.typeNames)).getD [])

/-- One struct uses another: as the type of a field, or as what a field points to. -/
def Uses (d : Description) (a b : String) : Prop :=
  ∃ r ∈ d.records, r.name = a ∧ b ∈ r.typeNames ∧ b ∈ d.recordNames

/-- The structs reached from some type names: the structs among them and, transitively,
those they use, through any cycle of pointers. -/
def Reaches (d : Description) (start : List String) (b : String) : Prop :=
  ∃ a ∈ start, a ∈ d.recordNames ∧ Relation.ReflTransGen d.Uses a b

/-- Every constant named by a struct reached from some type names is bound. -/
def ReachedBound (d : Description) (consts : ConstTable) (start : List String) : Prop :=
  ∀ r ∈ d.records, d.Reaches start r.name → ∀ n ∈ r.constants, consts.contains n = true

/-- A target supports a syscall: its own constants, and those of the structs it reaches,
are bound. -/
def SyscallSupported (d : Description) (consts : ConstTable) (target : Target)
    (c : Syscall) : Prop :=
  (∀ n ∈ c.constants target, consts.contains n = true) ∧ d.ReachedBound consts c.typeNames

/-- A target supports a struct: the constants of every struct it reaches, itself included,
are bound. -/
def RecordSupported (d : Description) (consts : ConstTable) (r : Record) : Prop :=
  d.ReachedBound consts [r.name]

/-- Names are given once: resources and structs have pairwise distinct names, none of them a
builtin type's, and so do syscalls. -/
structure Distinct (d : Description) : Prop where
  types : (d.resources.map (·.name) ++ d.recordNames).Nodup
  notBuiltin : ∀ n ∈ d.resources.map (·.name) ++ d.recordNames, n ∉ builtinTypes
  syscalls : (d.syscalls.map (·.name)).Nodup

/-- Every type of a field, an argument or a return is well formed. -/
structure WellFormed (d : Description) : Prop where
  fields : ∀ r ∈ d.records, ∀ f ∈ r.fields, f.type.WellFormed
  args : ∀ c ∈ d.syscalls, ∀ f ∈ c.args, f.type.WellFormed
  ret : ∀ c ∈ d.syscalls, ∀ p e, c.ret = some (p, e) → e.WellFormed

theorem Distinct.recordNames_nodup {d : Description} (distinct : d.Distinct) :
    (d.records.map (·.name)).Nodup :=
  (List.nodup_append.mp distinct.types).2.1

theorem Uses.target_mem {d : Description} {a b : String} (uses : d.Uses a b) :
    b ∈ d.recordNames := by
  obtain ⟨_, _, _, _, named⟩ := uses
  exact named

theorem reached_mem {d : Description} {a b : String} (path : Relation.ReflTransGen d.Uses a b)
    (start : a ∈ d.recordNames) : b ∈ d.recordNames := by
  cases path with
  | refl => exact start
  | tail _ last => exact Uses.target_mem last

theorem Reaches.trans {d : Description} {start : List String} {b c : String}
    (first : d.Reaches start b) (next : d.Reaches [b] c) : d.Reaches start c := by
  obtain ⟨a, member, record, path⟩ := first
  obtain ⟨b', single, -, path'⟩ := next
  rw [List.mem_singleton.mp single] at path'
  exact ⟨a, member, record, path.trans path'⟩

/-- A struct reached from a supported start is supported in turn. -/
theorem ReachedBound.reached {d : Description} {consts : ConstTable} {start : List String}
    {b : String} (bound : d.ReachedBound consts start) (reach : d.Reaches start b) :
    d.ReachedBound consts [b] :=
  fun r member next => bound r member (reach.trans next)

end Description

end SyscallTables
