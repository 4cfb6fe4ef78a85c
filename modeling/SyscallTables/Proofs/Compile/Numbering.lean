import Mathlib.Data.String.Basic
import SyscallTables.Proofs.Compile.Supported
import SyscallTables.Proofs.Program.Names
import SyscallTables.Proofs.Text.Utf8Order

namespace SyscallTables

open Description Compile

/-! How compiled syscalls are named, numbered and ordered. A syscall keeps its description's
name; its call name is that name up to the first `$`. A synthetic call, one whose call name
starts with `syz_`, gets the executor's own number; any other gets the `__NR_` constant of its
call when the target dispatches by number, and zero when it does not. A call whose constant the
target lacks is left out, so a kept call's constant is bound. The program lists its syscalls
sorted by name and numbers them by position; names are distinct, so the order is strict, and
it is the order of the names' UTF-8 bytes.

Nothing stops a constant table from binding `__NR_<call>` to the executor's own number, so that
number does not tell synthetic calls apart: a call `foo` with `__NR_foo` bound to `2^64 - 1`
compiles with that number. -/

/-! ## Call names -/

theorem head?_splitOnP {α : Type} (p : α → Bool) (xs : List α) :
    (xs.splitOnP p).head? = some (xs.takeWhile fun x => !p x) := by
  induction xs with
  | nil => simp
  | cons x xs ih =>
    rw [List.splitOnP_cons_eq_if_modifyHead]
    cases sep : p x with
    | true => simp [sep]
    | false =>
      obtain ⟨first, rest, split⟩ : ∃ first rest, xs.splitOnP p = first :: rest :=
        List.exists_cons_of_ne_nil (List.splitOnP_ne_nil p xs)
      rw [split, List.head?_cons, Option.some.injEq] at ih
      simp [sep, split, ih]

theorem Description.Syscall.callName_eq (node : Description.Syscall) :
    node.callName = String.ofList (node.name.toList.takeWhile fun x => !(x == '$')) := by
  rw [Description.Syscall.callName, String.splitToList_of_valid, List.headD_eq_head?_getD,
    List.head?_map, head?_splitOnP]
  rfl

/-- A call name is a prefix of the syscall's name that holds no `$` and is the whole name or
stops at a `$`. -/
theorem Description.Syscall.callName_prefix (node : Description.Syscall) :
    '$' ∉ node.callName.toList ∧ ∃ rest, node.name.toList = node.callName.toList ++ rest ∧
      (rest = [] ∨ rest.head? = some '$') := by
  rw [callName_eq, String.toList_ofList]
  refine ⟨fun dollar => ?_, node.name.toList.dropWhile fun x => !(x == '$'),
    List.takeWhile_append_dropWhile.symm, ?_⟩
  · simpa using List.all_eq_true.mp List.all_takeWhile _ dollar
  · cases rest : node.name.toList.dropWhile fun x => !(x == '$') with
    | nil => exact .inl rfl
    | cons y ys =>
      have stop := List.head?_dropWhile_not (fun x => !(x == '$')) node.name.toList
      simp [rest] at stop
      simp [stop]

/-! ## Numbers -/

/-- The number a call is dispatched by: the executor's own for a synthetic call, otherwise the
`__NR_` constant of the call, which the table binds, when the target dispatches by number, and
zero when it does not. -/
structure NumberedBy (consts : ConstTable) (target : Target) (callName : String) (nr : UInt64) :
    Prop where
  synthetic : callName.startsWith syntheticPrefix = true → nr = syntheticNumber
  byConstant : callName.startsWith syntheticPrefix = false → target.syscallNumbers = true →
    consts.get? ("__NR_" ++ callName) = some nr
  unnumbered : callName.startsWith syntheticPrefix = false → target.syscallNumbers = false →
    nr = 0

/-- The executor's own number goes to the synthetic calls and to the calls whose constant the
table binds to it. -/
theorem NumberedBy.eq_syntheticNumber_iff {consts : ConstTable} {target : Target}
    {callName : String} {nr : UInt64} (numbered : NumberedBy consts target callName nr) :
    nr = syntheticNumber ↔ callName.startsWith syntheticPrefix = true ∨
      (target.syscallNumbers = true ∧ consts.get? ("__NR_" ++ callName) = some syntheticNumber) := by
  cases synthetic : callName.startsWith syntheticPrefix with
  | true => simp [numbered.synthetic synthetic]
  | false =>
    cases numbers : target.syscallNumbers with
    | true => simp [numbered.byConstant synthetic numbers]
    | false => simp [numbered.unnumbered synthetic numbers, syntheticNumber]

/-- The compiler numbers a call as specified once the call's constant is not missing. -/
theorem syscallNumber_numberedBy {env : Env} {callName : String} {r : Refs}
    (bound : "__NR_" ++ callName ∉ (syscallNumber env callName r).2.missing) :
    NumberedBy env.consts env.target callName (syscallNumber env callName r).1 := by
  unfold syscallNumber at bound ⊢
  constructor
  · intro synthetic
    simp [synthetic]
  · intro notSynthetic numbers
    simp only [notSynthetic, numbers, Bool.false_eq_true, if_false, if_true, lookup] at bound ⊢
    cases found : env.consts.get? ("__NR_" ++ callName) with
    | none => simp [found] at bound
    | some v => rfl
  · intro notSynthetic noNumbers
    simp [notSynthetic, noNumbers]

/-! ## Compiled syscalls -/

/-- A syscall compiled from a description keeps its name and call name, is numbered as
specified and returns nothing, an integer or a resource. -/
structure CompiledFrom (consts : ConstTable) (target : Target) (node : Description.Syscall)
    (c : Syscall) : Prop where
  name : c.name = node.name
  callName : c.callName = node.callName
  number : NumberedBy consts target c.callName c.nr
  ret : ∀ t ∈ c.ret, (∃ size, t = .int size) ∨ ∃ name size, t = .resource name size

theorem returnType_returnable (env : Env) (layout : Layout) (node : Description.Syscall)
    (r : Refs) (s : State) :
    ∀ t ∈ (returnType env layout node r s).1.1,
      (∃ size, t = .int size) ∨ ∃ name size, t = .resource name size := by
  unfold returnType
  split
  · simp
  · split <;> simp

theorem compileSyscall_compiledFrom {env : Env} {fuel : Nat} {node : Description.Syscall}
    {s : State} {c : Syscall} (built : (compileSyscall env fuel node s).1.1 = some c) :
    CompiledFrom env.consts env.target node c := by
  rcases resolved : resolveFields env (recordLayout env fuel) node.args {} s with
    ⟨⟨fields, ok⟩, r₁, s₁⟩
  rcases typed : returnType env (recordLayout env fuel) node r₁ s₁ with ⟨⟨ret, retOk⟩, r₂, s₂⟩
  have returnable := returnType_returnable env (recordLayout env fuel) node r₁ s₁
  rw [typed] at returnable
  have numbered : "__NR_" ++ node.callName ∉ (syscallNumber env node.callName r₂).2.missing →
      NumberedBy env.consts env.target node.callName (syscallNumber env node.callName r₂).1 :=
    syscallNumber_numberedBy
  rcases number : syscallNumber env node.callName r₂ with ⟨nr, r₃⟩
  rw [number] at numbered
  rw [compileSyscall_eq resolved typed number] at built
  by_cases empty : (transitiveMissing s₂ [] r₃).isEmpty
  · -- the number's constant is bound, or the walk would find it missing
    have bound : "__NR_" ++ node.callName ∉ r₃.missing := fun missing => by
      have found := (mem_transitiveMissing s₂ [] r₃ _).mpr (.inl missing)
      simp [List.isEmpty_iff.mp empty] at found
    simp only [empty, if_true] at built
    split at built
    · cases built
      exact ⟨rfl, rfl, numbered bound, returnable⟩
    · cases built
  · simp [empty] at built

/-- The syscalls a run of the loop adds are compiled, one each, from a sublist of the
descriptions it went through. -/
theorem compileSyscalls_compiledFrom (env : Env) (fuel : Nat) (nodes : List Description.Syscall)
    (acc : List Syscall × List String × State) :
    ∃ kept calls, kept.Sublist nodes ∧ List.Forall₂ (CompiledFrom env.consts env.target) kept calls ∧
      (nodes.foldl (syscallStep env fuel) acc).1 = acc.1 ++ calls := by
  induction nodes generalizing acc with
  | nil => exact ⟨[], [], List.Sublist.slnil, .nil, by simp⟩
  | cons node rest ih =>
    obtain ⟨kept, calls, sublist, compiled, folded⟩ := ih (syscallStep env fuel acc node)
    have step : (syscallStep env fuel acc node).1 =
        acc.1 ++ (compileSyscall env fuel node acc.2.2).1.1.toList := rfl
    rw [List.foldl_cons, folded, step, List.append_assoc]
    cases built : (compileSyscall env fuel node acc.2.2).1.1 with
    | none => exact ⟨kept, calls, sublist.cons node, compiled, by simp⟩
    | some c =>
      exact ⟨node :: kept, c :: calls, sublist.cons_cons node,
        .cons (compileSyscall_compiledFrom built) compiled, by simp⟩

theorem compileAll_syscalls (env : Env) :
    ∃ unsupported s, (compileAll env).1.syscalls = numberSyscalls
      (env.description.syscalls.foldl (syscallStep env env.description.records.length)
        ([], unsupported, s)).1 := by
  rcases phase₁ : compileResources env env.description.resources {} with
    ⟨resources, unsupported₁, s₁⟩
  rcases phase₃ : keepRecords env.description.records unsupported₁
    (layOutRecords env env.description.records.length env.description.records s₁) with
    ⟨records, unsupported₂, s₃⟩
  refine ⟨unsupported₂, s₃, ?_⟩
  simp only [compileAll, phase₁, phase₃]
  rfl

section Kept

variable {consts : ConstTable} {target : Target}

theorem CompiledFrom.names {kept : List Description.Syscall} {calls : List Syscall}
    (compiled : List.Forall₂ (CompiledFrom consts target) kept calls) :
    calls.map (·.name) = kept.map (·.name) := by
  induction compiled with
  | nil => rfl
  | cons first _ ih => simp [first.name, ih]

theorem CompiledFrom.mem {kept : List Description.Syscall} {calls : List Syscall}
    (compiled : List.Forall₂ (CompiledFrom consts target) kept calls) {c : Syscall}
    (member : c ∈ calls) : ∃ node ∈ kept, CompiledFrom consts target node c := by
  induction compiled with
  | nil => simp at member
  | cons first _ ih =>
    rcases List.mem_cons.mp member with rfl | later
    · exact ⟨_, List.mem_cons_self .., first⟩
    · obtain ⟨node, inKept, compiledFrom⟩ := ih later
      exact ⟨node, List.mem_cons_of_mem _ inKept, compiledFrom⟩

/-- Renumbering keeps what a syscall was compiled from. -/
theorem CompiledFrom.renumber {node : Description.Syscall} {c : Syscall}
    (compiled : CompiledFrom consts target node c) (i : Nat) :
    CompiledFrom consts target node { c with id := i } :=
  ⟨compiled.name, compiled.callName, compiled.number, compiled.ret⟩

end Kept

/-! ## Order and numbers -/

theorem numberSyscalls_ascending (calls : List Syscall) :
    (numberSyscalls calls).Pairwise fun a b => a.name ≤ b.name := by
  rw [← List.pairwise_map (R := fun a b : String => a ≤ b), numberSyscalls_map_name,
    List.pairwise_map]
  exact (mergeSort_stableSorted Syscall.name calls).ascending

theorem numberSyscalls_id (calls : List Syscall) (i : Nat) (h : i < (numberSyscalls calls).length) :
    (numberSyscalls calls)[i].id = i := by
  simp [numberSyscalls]

/-- Syscalls sorted by name, no two of one name, ascend strictly in the bytes of their names. -/
theorem bytes_ascending_of_sorted {calls : List Syscall}
    (sorted : calls.Pairwise fun a b => a.name ≤ b.name) (nodup : (calls.map (·.name)).Nodup) :
    calls.Pairwise fun a b => a.name.toUTF8.toList < b.name.toUTF8.toList := by
  have distinct : calls.Pairwise fun a b => a.name ≠ b.name := List.pairwise_map.mp nodup
  refine (sorted.and distinct).imp fun ⟨le, differ⟩ => ?_
  rw [toUTF8_lt_iff]
  exact String.not_le.mp fun ge => differ (String.le_antisymm le ge)

section Compiled

variable {d : Description} {consts : ConstTable} {target : Target} {p : Program}

/-- A compiled program numbers syscalls compiled, one each, from a sublist of the
descriptions. -/
theorem compile_compiledFrom (compiled : d.compile consts target = .ok p) :
    ∃ kept calls, kept.Sublist d.syscalls ∧ List.Forall₂ (CompiledFrom consts target) kept calls ∧
      p.syscalls = numberSyscalls calls := by
  obtain ⟨-, built⟩ := compile_quiet compiled
  subst built
  obtain ⟨unsupported, s, numbered⟩ := compileAll_syscalls ⟨d, consts, target⟩
  obtain ⟨kept, calls, sublist, compiledFrom, folded⟩ :=
    compileSyscalls_compiledFrom ⟨d, consts, target⟩ d.records.length d.syscalls
      ([], unsupported, s)
  exact ⟨kept, calls, sublist, compiledFrom, by rw [numbered, folded, List.nil_append]⟩

theorem mem_compile_compiledFrom (compiled : d.compile consts target = .ok p) :
    ∀ c ∈ p.syscalls, ∃ node ∈ d.syscalls, CompiledFrom consts target node c := by
  obtain ⟨kept, calls, sublist, compiledFrom, numbered⟩ := compile_compiledFrom compiled
  intro c member
  rw [numbered] at member
  obtain ⟨c', inCalls, i, rfl⟩ := mem_numberSyscalls member
  obtain ⟨node, inKept, compiledHere⟩ := CompiledFrom.mem compiledFrom inCalls
  exact ⟨node, sublist.subset inKept, compiledHere.renumber i⟩

theorem compile_ascending (compiled : d.compile consts target = .ok p) :
    p.syscalls.Pairwise fun a b => a.name ≤ b.name := by
  obtain ⟨-, calls, -, -, numbered⟩ := compile_compiledFrom compiled
  rw [numbered]
  exact numberSyscalls_ascending calls

theorem compile_ids (compiled : d.compile consts target = .ok p) :
    ∀ i (h : i < p.syscalls.length), p.syscalls[i].id = i := by
  obtain ⟨-, calls, -, -, numbered⟩ := compile_compiledFrom compiled
  obtain ⟨syscalls, resources, records, unsupported⟩ := p
  dsimp only at numbered ⊢
  subst numbered
  exact numberSyscalls_id calls

/-- Descriptions whose syscall names are distinct compile to syscalls of distinct names. -/
theorem compile_names_nodup (distinct : d.Distinct) (compiled : d.compile consts target = .ok p) :
    (p.syscalls.map (·.name)).Nodup := by
  obtain ⟨kept, calls, sublist, compiledFrom, numbered⟩ := compile_compiledFrom compiled
  -- the names kept are some of the descriptions' names
  rw [numbered, (numberSyscalls_names calls).nodup_iff, CompiledFrom.names compiledFrom]
  exact distinct.syscalls.sublist (sublist.map _)

end Compiled

/-- What a compiled program says of its syscalls: they ascend strictly in the bytes of their
names and each has its position for id; each call name is its name up to the first `$`, each
number is as `NumberedBy` specifies, and each returns nothing, an integer or a resource. -/
structure DispatchTable (consts : ConstTable) (target : Target) (p : Program) : Prop where
  ascending : p.syscalls.Pairwise fun a b => a.name.toUTF8.toList < b.name.toUTF8.toList
  ids : ∀ i (h : i < p.syscalls.length), p.syscalls[i].id = i
  callNames : ∀ c ∈ p.syscalls, '$' ∉ c.callName.toList ∧
    ∃ rest, c.name.toList = c.callName.toList ++ rest ∧ (rest = [] ∨ rest.head? = some '$')
  numbers : ∀ c ∈ p.syscalls, NumberedBy consts target c.callName c.nr
  returns : ∀ c ∈ p.syscalls, ∀ ty ∈ c.ret,
    (∃ size, ty = .int size) ∨ ∃ name size, ty = .resource name size

theorem read_one_syscall :
    readPattern ⟨[(["sys"], .directory), (["sys", "a.toml"], .file "[[syscall]]\nname = \"foo\"\n")]⟩
      [] ⟨"sys/*.toml"⟩ =
      .ok { files := ["sys/a.toml"], syscalls := [⟨⟨"sys/a.toml", 2, 8⟩, "foo", [], none⟩] } := by
  cbv

theorem compile_one_syscall_reserved :
    Description.compile { files := ["sys/a.toml"], syscalls := [⟨⟨"sys/a.toml", 2, 8⟩, "foo", [], none⟩] }
      ⟨[("__NR_foo", syntheticNumber)]⟩ (Target.make "linux" "amd64" 8 ["__x86_64__"]) =
      .ok { syscalls := [⟨0, syntheticNumber, "foo", "foo", [], none⟩] } := by
  cbv

end SyscallTables
