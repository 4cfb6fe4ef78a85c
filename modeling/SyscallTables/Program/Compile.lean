import SyscallTables.Program.Basic
import SyscallTables.Description.Ast
import SyscallTables.Constant.Table
import SyscallTables.Constant.Literal
import SyscallTables.Target.Basic

namespace SyscallTables.Compile

/-! Compiling the descriptions of one OS for one target. Every type expression is resolved
against the builtin types, the resources and the structs; sizes follow the target's pointer
width and structs are laid out field by field, each field at the next multiple of its
alignment, the whole rounded up to the largest alignment (a union takes its largest field).
A struct may reach itself only through a pointer. Syscalls get their numbers from the
`__NR_<call>` constants.

A constant the target lacks is no error: every syscall that needs it, directly or through a
struct, is left out, and so is every struct that needs it; the constant is then listed as
unsupported. All other problems are diagnostics at the position of the offending type, in the
order they are met: resources first, then structs in order (each laid out when first needed),
then syscalls.

Each step takes the compiler's state and returns it updated; resolving a type also threads the
constants and structs it depends on. -/

/-- The constants and structs a type depends on. -/
structure Refs where
  missing : List String := []
  records : List String := []
  deriving Repr, Inhabited

/-- Adds a name to a list kept without repetition. -/
def addName (names : List String) (n : String) : List String :=
  if names.contains n then names else names ++ [n]

/-- Records that a type depends on a struct. -/
def Refs.needRecord (r : Refs) (name : String) : Refs :=
  { r with records := addName r.records name }

/-- What the compiler reads: the descriptions, the constants and the target. -/
structure Env where
  description : Description
  consts : ConstTable
  target : Target

/-- What the compiler has found so far. -/
structure State where
  diagnostics : List Diagnostic := []
  resourceTypes : List (String × TypeDesc) := []
  /-- Laid out structs; `none` marks one whose layout failed. -/
  layouts : List (String × Option (Nat × Nat)) := []
  inProgress : List String := []
  recordRefs : List (String × Refs) := []
  descs : List (String × RecordDesc) := []
  deriving Inhabited

/-- Binds a key in an association list, replacing an earlier binding. -/
def bind (m : List (String × α)) (k : String) (v : α) : List (String × α) :=
  (m.filter (·.1 != k)) ++ [(k, v)]

/-- Reports a problem at a position. -/
def State.report (s : State) (p : Position) (message : String) : State :=
  { s with diagnostics := s.diagnostics ++ [⟨p, message⟩] }

/-- The size of the integer type an expression names, for a pointer width. -/
def intSize (ptrSize : Nat) : TypeExpr → Option Nat
  | .ident "int8" => some 1
  | .ident "int16" => some 2
  | .ident "int32" => some 4
  | .ident "int64" => some 8
  | .ident "intptr" => some ptrSize
  | _ => none

/-- The integer type an expression names, reporting any other type. -/
def intType (env : Env) (e : TypeExpr) (p : Position) (s : State) : Option TypeDesc × State :=
  match intSize env.target.ptrSize e with
  | some size => (some (.int size), s)
  | none => (none, s.report p ("'" ++ e.render ++ "' is not an integer type"))

/-- The value of a constant; one the target lacks counts as zero and is recorded as
missing. -/
def lookup (env : Env) (name : String) (r : Refs) : UInt64 × Refs :=
  match env.consts.get? name with
  | some v => (v, r)
  | none => (0, { r with missing := addName r.missing name })

/-- A constant argument: an integer literal or a constant's name. -/
def constValue (env : Env) (arg : TypeExpr) (p : Position) (r : Refs) (s : State) :
    Option ConstValue × Refs × State :=
  match arg with
  | .ident name =>
    match Literal.parse name with
    | some v => (some ⟨name, v⟩, r, s)
    | none =>
      let (v, r) := lookup env name r
      (some ⟨name, v⟩, r, s)
  | .apply .. => (none, r, s.report p ("expected a constant, got '" ++ arg.render ++ "'"))

/-- The constant arguments of flags, stopping at the first that is none. -/
def constValues (env : Env) (p : Position) :
    List TypeExpr → Refs → State → Option (List ConstValue) × Refs × State
  | [], r, s => (some [], r, s)
  | a :: rest, r, s =>
    match constValue env a p r s with
    | (none, r, s) => (none, r, s)
    | (some v, r, s) =>
      match constValues env p rest r s with
      | (some vs, r, s) => (some (v :: vs), r, s)
      | (none, r, s) => (none, r, s)

/-- Whether a name is a resource of the descriptions. -/
def isResource (env : Env) (name : String) : Bool :=
  env.description.resources.any (·.name == name)

/-- The struct of a name; the last of that name counts. -/
def findRecord (env : Env) (name : String) : Option Description.Record :=
  env.description.records.reverse.find? (·.name == name)

/-- Rounds up to a multiple of an alignment; an alignment of zero counts as one. -/
def roundUp (value align : Nat) : Nat :=
  let a := max align 1
  (value + a - 1) / a * a

/-- The alignment and size of fields laid out as a struct or a union. -/
def layoutOf (union : Bool) (fields : List Field) : Nat × Nat :=
  let align := (fields.map (·.type.align)).foldl max 1
  let size :=
    if union then (fields.map (·.type.size)).foldl max 0
    else fields.foldl (fun offset f => roundUp offset f.type.align + f.type.size) 0
  (roundUp size align, align)

/-- How the struct of a name is laid out from a state: its size and alignment, or none. -/
abbrev Layout := String → State → Option (Nat × Nat) × State

/-- Resolves a type named without arguments: an integer, a resource or a struct, which is laid
out by `layout`. -/
def resolveName (env : Env) (layout : Layout) (name : String) (p : Position) (r : Refs)
    (s : State) : Option TypeDesc × Refs × State :=
  if ["int8", "int16", "int32", "int64", "intptr"].contains name then
    let (t, s) := intType env (.ident name) p s
    (t, r, s)
  else if ["const", "flags", "ptr"].contains name then
    (none, r, s.report p ("'" ++ name ++ "' requires arguments"))
  else if isResource env name then (s.resourceTypes.lookup name, r, s)
  else if (findRecord env name).isSome then
    match layout name s with
    | (some (size, align), s) => (some (.record name size align), r.needRecord name, s)
    | (none, s) => (none, r.needRecord name, s)
  else (none, r, s.report p ("unknown type '" ++ name ++ "'"))

/-- Resolves `const[value]` or `const[value, size]`; the size defaults to the pointer width. -/
def resolveConst (env : Env) (args : List TypeExpr) (p : Position) (r : Refs) (s : State) :
    Option TypeDesc × Refs × State :=
  if args.length > 2 then
    (none, r, s.report p ("'" ++ (TypeExpr.apply "const" args).render ++
      "': const takes 1 or 2 arguments"))
  else
    match args with
    | [] => (none, r, s)
    | first :: rest =>
      match constValue env first p r s with
      | (none, r, s) => (none, r, s)
      | (some v, r, s) =>
        match rest with
        | size :: _ =>
          match intType env size p s with
          | (some t, s) => (some (.const v.name v.value t.size), r, s)
          | (none, s) => (none, r, s)
        | [] => (some (.const v.name v.value env.target.ptrSize), r, s)

/-- Resolves `flags[a, b, ...]`. -/
def resolveFlags (env : Env) (args : List TypeExpr) (p : Position) (r : Refs) (s : State) :
    Option TypeDesc × Refs × State :=
  match constValues env p args r s with
  | (some values, r, s) => (some (.flags values env.target.ptrSize), r, s)
  | (none, r, s) => (none, r, s)

/-- Resolves a type expression at a position; a struct named by it is laid out by `layout`,
unless it is only pointed to. -/
def resolve (env : Env) (layout : Layout) :
    TypeExpr → Position → Refs → State → Option TypeDesc × Refs × State
  | .ident name, p, r, s => resolveName env layout name p r s
  | .apply name args, p, r, s =>
    let ptrSize := env.target.ptrSize
    if name = "const" then resolveConst env args p r s
    else if name = "flags" then resolveFlags env args p r s
    else if name = "ptr" then
      match args with
      | [.ident n] =>
        if (findRecord env n).isSome then (some (.ptr (.recordRef n) ptrSize), r.needRecord n, s)
        else
          let (pointee, r, s) := resolveName env layout n p r s
          (pointee.map fun t => .ptr t ptrSize, r, s)
      | [elem@(.apply ..)] =>
        let (pointee, r, s) := resolve env layout elem p r s
        (pointee.map fun t => .ptr t ptrSize, r, s)
      | _ =>
        (none, r, s.report p ("'" ++ (TypeExpr.apply name args).render ++
          "': ptr takes 1 argument"))
    else (none, r, s.report p ("'" ++ name ++ "' does not take arguments"))

/-- Resolves fields, keeping those that resolve; the flag tells whether all did. -/
def resolveFields (env : Env) (layout : Layout) :
    List Description.Field → Refs → State → (List Field × Bool) × Refs × State
  | [], r, s => (([], true), r, s)
  | f :: rest, r, s =>
    let (t, r, s) := resolve env layout f.type f.position r s
    let ((fields, ok), r, s) := resolveFields env layout rest r s
    match t with
    | some t => ((⟨f.name, t⟩ :: fields, ok), r, s)
    | none => ((fields, false), r, s)

/-- The size and alignment of a struct, laid out once and remembered. A struct met again while
its own fields are resolved embeds itself and is reported. `fuel` counts the structs that may
still be opened: each one opened stays in progress until its fields are resolved, so once the
fuel is spent every struct is in progress, the one asked for included. -/
def recordLayout (env : Env) : Nat → Layout
  | fuel, name, s =>
    match findRecord env name with
    | none => (none, s)
    | some node =>
      match s.layouts.lookup name with
      | some l => (l, s)
      | none =>
        let recursive : Option (Nat × Nat) × State :=
          let s := s.report node.position ("struct '" ++ name ++ "' is recursive")
          (none, { s with layouts := bind s.layouts name none })
        match fuel with
        | 0 => recursive
        | fuel + 1 =>
          if s.inProgress.contains name then recursive
          else
            let s := { s with inProgress := s.inProgress ++ [name] }
            let ((fields, ok), refs, s) :=
              resolveFields env (recordLayout env fuel) node.fields {} s
            let s := { s with inProgress := s.inProgress.filter (· != name),
                              recordRefs := bind s.recordRefs name refs }
            if !ok || s.layouts.lookup name == some none then
              (none, { s with layouts := bind s.layouts name none })
            else
              let (size, align) := layoutOf node.union fields
              let desc : RecordDesc := ⟨name, node.union, size, align, fields⟩
              (some (size, align), { s with layouts := bind s.layouts name (some (size, align)),
                                            descs := bind s.descs name desc })

/-- The structs a struct depends on, as recorded when it was laid out. -/
def successors (refs : List (String × Refs)) (name : String) : List String :=
  ((refs.lookup name).map (·.records)).getD []

/-- The number of recorded structs not yet visited. -/
def unvisited (refs : List (String × Refs)) (visited : List String) : Nat :=
  (refs.map (·.1)).countP fun k => !visited.contains k

theorem unvisited_append_le (refs : List (String × Refs)) (visited : List String)
    (name : String) : unvisited refs (visited ++ [name]) ≤ unvisited refs visited := by
  unfold unvisited
  apply List.countP_mono_left
  intro k _ fresh
  simp_all

theorem countP_unvisited_lt (keys visited : List String) (name : String)
    (fresh : visited.contains name = false) (recorded : name ∈ keys) :
    (keys.countP fun k => !(visited ++ [name]).contains k) <
      keys.countP fun k => !visited.contains k := by
  induction keys with
  | nil => simp at recorded
  | cons k keys ih =>
    have tail : (keys.countP fun k => !(visited ++ [name]).contains k) ≤
        keys.countP fun k => !visited.contains k :=
      List.countP_mono_left fun x _ later => by simp_all
    simp only [List.countP_cons]
    by_cases here : k = name
    · -- the key just visited stops counting, and counted before
      subst here
      have own : (visited ++ [k]).contains k = true := by simp
      simp only [own, fresh, Bool.not_true, Bool.not_false, Bool.false_eq_true, if_false,
        if_true]
      omega
    · have further : name ∈ keys := by
        simp only [List.mem_cons] at recorded
        exact recorded.resolve_left (Ne.symm here)
      have smaller := ih further
      have same : (visited ++ [name]).contains k = visited.contains k := by
        simp [here]
      rw [same]
      split <;> omega

theorem unvisited_append_lt (refs : List (String × Refs)) (visited : List String)
    (name : String) (fresh : visited.contains name = false)
    (recorded : name ∈ refs.map (·.1)) :
    unvisited refs (visited ++ [name]) < unvisited refs visited :=
  countP_unvisited_lt _ visited name fresh recorded

theorem successors_of_not_recorded (refs : List (String × Refs)) (name : String)
    (absent : name ∉ refs.map (·.1)) : successors refs name = [] := by
  have unbound : refs.lookup name = none := by
    rw [List.lookup_eq_none_iff]
    intro entry member
    have differs : name ≠ entry.1 := fun same => absent (List.mem_map.2 ⟨entry, member, same.symm⟩)
    simpa using differs
  simp [successors, unbound]

/-- The structs reachable from a stack of structs through what each depends on, added to those
already visited. -/
def reachable (refs : List (String × Refs)) : List String → List String → List String
  | [], visited => visited
  | name :: stack, visited =>
    if visited.contains name then reachable refs stack visited
    else reachable refs (successors refs name ++ stack) (visited ++ [name])
termination_by stack visited => (unvisited refs visited, stack.length)
decreasing_by
  · exact Prod.Lex.right _ (by simp)
  · rename_i fresh
    by_cases recorded : name ∈ refs.map (·.1)
    · exact Prod.Lex.left _ _
        (unvisited_append_lt refs visited name (by simpa using fresh) recorded)
    · rw [successors_of_not_recorded refs name recorded, Prod.lex_def]
      have atMost := unvisited_append_le refs visited name
      by_cases same : unvisited refs (visited ++ [name]) = unvisited refs visited
      · exact Or.inr ⟨same, by simp⟩
      · exact Or.inl (by omega)

/-- The missing constants of some structs and of what they reach, with those of `extra`. -/
def transitiveMissing (s : State) (start : List String) (extra : Refs) : List String :=
  let visited := reachable s.recordRefs (extra.records ++ start) []
  visited.foldl (fun acc n => (((s.recordRefs.lookup n).map (·.missing)).getD []).foldl addName acc)
    extra.missing

/-- One special value of a resource: a literal or a known constant is kept, another name is
unsupported, and a value that looks like a number but is neither is reported. -/
def resourceValue (env : Env) (acc : List UInt64 × List String × State)
    (value : Position × String) : List UInt64 × List String × State :=
  let (values, unsupported, s) := acc
  let (p, v) := value
  match Literal.parse v with
  | some n => (values ++ [n], unsupported, s)
  | none =>
    match env.consts.get? v with
    | some n => (values ++ [n], unsupported, s)
    | none =>
      if v.startsWith "-" || (v.toList.head?.map Char.isDigit).getD false then
        (values, unsupported, s.report p ("bad resource value '" ++ v ++ "'"))
      else (values, addName unsupported v, s)

/-- Compiles a resource: its base must be an integer type; its values are literals or
constants, and a value that is neither is unsupported unless it looks like a number. -/
def compileResource (env : Env) (node : Description.Resource) (s : State) :
    (Option Resource × List String) × State :=
  match intType env node.base node.position s with
  | (none, s) => ((none, []), s)
  | (some base, s) =>
    let s := { s with resourceTypes := bind s.resourceTypes node.name
                                         (.resource node.name base.size) }
    let (values, unsupported, s) := node.values.foldl (resourceValue env) ([], [], s)
    ((some ⟨node.name, base, values⟩, unsupported), s)

/-- Compiles the return type of a syscall: an integer or a resource. -/
def returnType (env : Env) (layout : Layout) (node : Description.Syscall) (r : Refs)
    (s : State) : (Option TypeDesc × Bool) × Refs × State :=
  match node.ret with
  | none => ((none, true), r, s)
  | some (p, e) =>
    match resolve env layout e p r s with
    | (some t@(.int _), r, s) => ((some t, true), r, s)
    | (some t@(.resource ..), r, s) => ((some t, true), r, s)
    | (some _, r, s) =>
      ((none, false), r, s.report p (node.name ++ ": return type must be an integer or resource"))
    | (none, r, s) => ((none, false), r, s)

/-- The number of a syscall: synthetic calls have their own, calls of a target that does not
dispatch by number have zero, and all others look up `__NR_<call>`. -/
def syscallNumber (env : Env) (callName : String) (r : Refs) : UInt64 × Refs :=
  if callName.startsWith syntheticPrefix then (syntheticNumber, r)
  else if env.target.syscallNumbers then lookup env ("__NR_" ++ callName) r
  else (0, r)

/-- Compiles one syscall; `none` when it is left out, with the constants it misses. -/
def compileSyscall (env : Env) (fuel : Nat) (node : Description.Syscall) (s : State) :
    (Option Syscall × List String) × State :=
  let layout := recordLayout env fuel
  let ((args, argsOk), r, s) := resolveFields env layout node.args {} s
  let ((ret, retOk), r, s) := returnType env layout node r s
  let callName := node.callName
  let (nr, r) := syscallNumber env callName r
  let call : Option Syscall :=
    if argsOk && retOk then some ⟨0, nr, node.name, callName, args, ret⟩ else none
  let missing := transitiveMissing s [] r
  if missing.isEmpty then ((call, []), s) else ((none, missing), s)

/-- One resource's turn: compiled, with the names its values miss. -/
def resourceStep (env : Env) (acc : List Resource × List String × State)
    (node : Description.Resource) : List Resource × List String × State :=
  let (resources, unsupported, s) := acc
  let ((r, missing), s) := compileResource env node s
  (resources ++ r.toList, missing.foldl addName unsupported, s)

/-- Compiles the resources in order, with the names their values miss. -/
def compileResources (env : Env) (nodes : List Description.Resource) (s : State) :
    List Resource × List String × State :=
  nodes.foldl (resourceStep env) ([], [], s)

/-- Lays out every struct in order. -/
def layOutRecords (env : Env) (fuel : Nat) (nodes : List Description.Record) (s : State) :
    State :=
  nodes.foldl (fun s node => (recordLayout env fuel node.name s).2) s

/-- One struct's turn: kept with its description when it misses no constant, directly or
through the structs it reaches; otherwise the constants it misses are unsupported. -/
def recordStep (acc : List RecordDesc × List String × State) (node : Description.Record) :
    List RecordDesc × List String × State :=
  let (records, unsupported, s) := acc
  let missing := transitiveMissing s [node.name] {}
  if missing.isEmpty then
    match s.descs.lookup node.name with
    | some desc =>
      (records ++ [desc], unsupported, { s with descs := s.descs.filter (·.1 != node.name) })
    | none => (records, unsupported, s)
  else (records, missing.foldl addName unsupported, s)

/-- Keeps, in order, the laid out structs that miss no constant, directly or through the
structs they reach; the constants the others miss are unsupported. -/
def keepRecords (nodes : List Description.Record) (unsupported : List String) (s : State) :
    List RecordDesc × List String × State :=
  nodes.foldl recordStep ([], unsupported, s)

/-- One syscall's turn: kept when it resolves and misses no constant. -/
def syscallStep (env : Env) (fuel : Nat) (acc : List Syscall × List String × State)
    (node : Description.Syscall) : List Syscall × List String × State :=
  let (syscalls, unsupported, s) := acc
  let ((call, missing), s) := compileSyscall env fuel node s
  (syscalls ++ call.toList, missing.foldl addName unsupported, s)

/-- Compiles the syscalls in order, keeping those that resolve and miss no constant. -/
def compileSyscalls (env : Env) (fuel : Nat) (nodes : List Description.Syscall)
    (unsupported : List String) (s : State) : List Syscall × List String × State :=
  nodes.foldl (syscallStep env fuel) ([], unsupported, s)

/-- Syscalls sorted by name and numbered in that order. -/
def numberSyscalls (syscalls : List Syscall) : List Syscall :=
  let sorted := syscalls.mergeSort fun a b => decide (a.name ≤ b.name)
  sorted.zipIdx.map fun (c, i) => { c with id := i }

/-- Compiles all descriptions into a program, with the state the compiler ends in. -/
def compileAll (env : Env) : Program × State :=
  let d := env.description
  let fuel := d.records.length
  let (resources, unsupported, s) := compileResources env d.resources {}
  let s := layOutRecords env fuel d.records s
  let (records, unsupported, s) := keepRecords d.records unsupported s
  let (syscalls, unsupported, s) := compileSyscalls env fuel d.syscalls unsupported s
  ({ syscalls := numberSyscalls syscalls, resources, records,
     unsupported := sortedNames unsupported }, s)

end SyscallTables.Compile

namespace SyscallTables

/-- Compiles descriptions for a target with its constants: the program, or every
diagnostic. -/
def Description.compile (d : Description) (consts : ConstTable) (target : Target) :
    Except (List Diagnostic) Program :=
  let (program, state) := Compile.compileAll ⟨d, consts, target⟩
  if state.diagnostics.isEmpty then .ok program else .error state.diagnostics

end SyscallTables
