import SyscallTables.Proofs.Compile.Recursion

namespace SyscallTables.Compile

open Description

/-! Laying out structs never runs out of fuel. A struct is opened only when it is not already
in progress, and it stays in progress while its fields are resolved; the structs in progress
are distinct struct names, so there are never more of them than structs. The compiler hands
every top-level layout as much fuel as there are structs, so a struct asked for once the fuel
is spent is already in progress and is reported as recursive whatever the fuel: any larger
fuel lays out every struct alike, and compiling with it gives the same program and state.
Resolving a type recurses on its sub-expressions only, and the walk that collects missing
constants visits each struct once (`reachable_nodup`).

Two ways of laying out structs that agree where they are asked resolve every type alike, since
only a struct named as a bare type is laid out; that congruence carries the fuel from one
level of nesting to the next. Main statement: `compile_bounded_by_struct_count`. -/

variable {env : Env} {name : String} {s : State}

section Congruence

variable {L₁ L₂ : Layout} {p : Position} {r : Refs}

theorem resolveName_congr (same : (findRecord env name).isSome → L₁ name s = L₂ name s) :
    resolveName env L₁ name p r s = resolveName env L₂ name p r s := by
  unfold resolveName
  split_ifs with integer keyword resource record
  · rfl
  · rfl
  · rfl
  · rw [same record]
  · rfl

/-- A type resolves alike under two layouts that agree on the struct it names bare; behind a
pointer a struct is only named. -/
theorem resolve_congr (e : TypeExpr)
    (same : ∀ n, e = .ident n → (findRecord env n).isSome → L₁ n s = L₂ n s) :
    resolve env L₁ e p r s = resolve env L₂ e p r s := by
  fun_induction resolve env L₁ e p r s with
  | case1 name p r s =>
    rw [resolve.eq_1]
    exact resolveName_congr (same name rfl)
  | case2 args p r s => rw [resolve.eq_def]; simp
  | case3 args p r s => rw [resolve.eq_def]; simp
  | case4 p r s size n found => rw [resolve.eq_def]; simp [found, size]
  | case5 p r₀ s₀ size n unfound pointee r s named =>
    have pointed : resolveName env L₂ n p r₀ s₀ = (pointee, r, s) :=
      (resolveName_congr fun found => absurd found unfound).symm.trans named
    rw [resolve.eq_def]
    simp [unfound, pointed, size]
  | case6 p r₀ s₀ size n args pointee r s inner _ _ ih =>
    have pointed : resolve env L₂ (.apply n args) p r₀ s₀ = (pointee, r, s) :=
      (ih fun _ bare => by cases bare).symm.trans inner
    rw [resolve.eq_def]
    simp [pointed, size]
  | case7 args p r s notIdent notApply => rw [resolve.eq_def]; simp
  | case8 name args p r s => rw [resolve.eq_def]; simp_all

variable (P : State → Prop) (reported : ∀ s p m, NotRecursion m → P s → P (s.report p m))
  (N : String → Prop) (laidOut : ∀ n s, N n → P s → P (L₁ n s).2)
  (same : ∀ n s, N n → P s → (findRecord env n).isSome → L₁ n s = L₂ n s)

include reported laidOut same in
/-- Fields resolve alike under two layouts that agree on the structs the fields name bare, in
every state met along the way. -/
theorem resolveFields_congr (fields : List Description.Field)
    (direct : ∀ f ∈ fields, ∀ n, f.type = .ident n → N n) (holds : P s) :
    resolveFields env L₁ fields r s = resolveFields env L₂ fields r s := by
  induction fields generalizing r s with
  | nil => rfl
  | cons f rest ih =>
    have head : resolve env L₁ f.type f.position r s = resolve env L₂ f.type f.position r s :=
      resolve_congr f.type fun n bare => same n s (direct f (by simp) n bare) holds
    have kept : P (resolve env L₁ f.type f.position r s).2.2 :=
      resolve_preserves P reported N laidOut f.type (direct f (by simp)) holds
    rcases resolved : resolve env L₁ f.type f.position r s with ⟨t, r₁, s₁⟩
    rw [resolved] at kept head
    have later : resolveFields env L₁ rest r₁ s₁ = resolveFields env L₂ rest r₁ s₁ :=
      ih (fun g member => direct g (List.mem_cons_of_mem f member)) kept
    simp only [resolveFields, resolved, ← head, later]

include same in
theorem returnType_congr (node : Description.Syscall)
    (direct : ∀ p n, node.ret = some (p, .ident n) → N n) (holds : P s) :
    returnType env L₁ node r s = returnType env L₂ node r s := by
  unfold returnType
  split
  · rfl
  · rename_i p e declared
    rw [resolve_congr e fun n bare => same n s (direct p n (bare ▸ declared)) holds]

end Congruence

section Fuel

theorem recordLayout_of_bound {fuel : Nat} {node : Record} (found : findRecord env name = some node)
    {l : Option (Nat × Nat)} (laid : s.layouts.lookup name = some l) :
    recordLayout env fuel name s = (l, s) := by
  cases fuel <;> simp [recordLayout, found, laid]

theorem recordLayout_of_busy {fuel : Nat} {node : Record} (found : findRecord env name = some node)
    (fresh : s.layouts.lookup name = none) (busy : name ∈ s.inProgress) :
    recordLayout env fuel name s =
      (none, { s.report node.position (recursionMessage name) with
               layouts := bind s.layouts name none }) := by
  cases fuel <;> simp [recordLayout, found, fresh, busy, recursionMessage]

/-- A struct opened with two fuels is laid out alike when its fields resolve alike. -/
theorem recordLayout_succ_congr {f₁ f₂ : Nat} {node : Record}
    (found : findRecord env name = some node) (fresh : s.layouts.lookup name = none)
    (same : resolveFields env (recordLayout env f₁) node.fields {}
        { s with inProgress := s.inProgress ++ [name] } =
      resolveFields env (recordLayout env f₂) node.fields {}
        { s with inProgress := s.inProgress ++ [name] }) :
    recordLayout env (f₁ + 1) name s = recordLayout env (f₂ + 1) name s := by
  simp only [recordLayout, found, fresh, same]

/-- More fuel lays a pending struct out alike. -/
theorem recordLayout_add_fuel (fuel : Nat) :
    ∀ name s, Pending env fuel name s → ∀ k,
      recordLayout env (fuel + k) name s = recordLayout env fuel name s := by
  induction fuel using Nat.strongRecOn with
  | ind fuel ih =>
    intro name s pending k
    cases found : findRecord env name with
    | none => rw [recordLayout_of_unknown s found, recordLayout_of_unknown s found]
    | some node =>
      have record := findRecord_isSome_iff.mp (Option.isSome_of_eq_some found)
      cases laid : s.layouts.lookup name with
      | some l => rw [recordLayout_of_bound found laid, recordLayout_of_bound found laid]
      | none =>
        by_cases busy : name ∈ s.inProgress
        · rw [recordLayout_of_busy found laid busy, recordLayout_of_busy found laid busy]
        · -- the fuel is not spent: the struct is opened, with one less fuel either way
          obtain ⟨fewer, rfl⟩ : ∃ fewer, fuel = fewer + 1 :=
            Nat.exists_eq_succ_of_ne_zero fun spent => busy (pending.busy record (.inl spent))
          rw [Nat.add_right_comm]
          refine recordLayout_succ_congr found laid ?_
          -- the structs laid out from inside are those it embeds, pending with one less fuel
          refine resolveFields_congr (fun s' => s'.inProgress = s.inProgress ++ [name])
            (fun _ _ _ _ => id)
            (fun n => n ∈ env.description.recordNames → env.description.Embeds name n)
            (fun n s' _ entered => (recordLayout_inProgress _ n s').trans entered)
            (fun n s' edge entered known => ?_) node.fields
            (fun _ member _ bare record => embeds_of_field found member bare record) rfl
          have embedded := edge (findRecord_isSome_iff.mp known)
          exact ih fewer (by omega) n s' (pending.enter busy record embedded entered) k

variable {k : Nat}

/-- With no struct in progress, every struct is laid out alike with more fuel than there are
structs. -/
theorem recordLayout_add_fuel_of_idle (idle : s.inProgress = []) (name : String) (k : Nat) :
    recordLayout env (env.description.records.length + k) name s =
      recordLayout env env.description.records.length name s :=
  recordLayout_add_fuel _ name s (Pending.start idle name) k

theorem layOutRecords_add_fuel (nodes : List Description.Record) (idle : s.inProgress = []) :
    layOutRecords env (env.description.records.length + k) nodes s =
      layOutRecords env env.description.records.length nodes s := by
  induction nodes generalizing s with
  | nil => rfl
  | cons node rest ih =>
    have after : (recordLayout env env.description.records.length node.name s).2.inProgress = [] :=
      (recordLayout_inProgress _ node.name s).trans idle
    simp only [layOutRecords, List.foldl_cons, recordLayout_add_fuel_of_idle idle]
    exact ih after

theorem compileSyscall_add_fuel (node : Description.Syscall) (idle : s.inProgress = []) :
    compileSyscall env (env.description.records.length + k) node s =
      compileSyscall env env.description.records.length node s := by
  -- every struct a syscall lays out is asked for with none in progress
  have same : ∀ n s', True → s'.inProgress = [] → (findRecord env n).isSome →
      recordLayout env (env.description.records.length + k) n s' =
        recordLayout env env.description.records.length n s' :=
    fun n _ _ idle' _ => recordLayout_add_fuel_of_idle idle' n k
  have fields : resolveFields env (recordLayout env (env.description.records.length + k))
      node.args {} s = resolveFields env (recordLayout env env.description.records.length)
      node.args {} s :=
    resolveFields_congr (fun s' => s'.inProgress = []) (fun _ _ _ _ => id) (fun _ => True)
      (fun n s' _ idle' => (recordLayout_inProgress _ n s').trans idle') same node.args
      (fun _ _ _ _ => trivial) idle
  have kept : (resolveFields env (recordLayout env env.description.records.length) node.args {}
      s).2.2.inProgress = [] :=
    resolveFields_preserves (fun s' => s'.inProgress = []) (fun _ _ _ _ => id) (fun _ => True)
      (fun n s' _ idle' => (recordLayout_inProgress _ n s').trans idle') node.args
      (fun _ _ _ _ => trivial) idle
  rcases resolved : resolveFields env (recordLayout env env.description.records.length) node.args
    {} s with ⟨⟨args, ok⟩, r₁, s₁⟩
  rw [resolved] at kept fields
  have ret : returnType env (recordLayout env (env.description.records.length + k)) node r₁ s₁ =
      returnType env (recordLayout env env.description.records.length) node r₁ s₁ :=
    returnType_congr (fun s' => s'.inProgress = []) (fun _ => True) same node
      (fun _ _ _ => trivial) kept
  simp only [compileSyscall, fields, resolved, ret]

theorem compileSyscalls_add_fuel (nodes : List Description.Syscall)
    (acc : List Syscall × List String × State) (idle : acc.2.2.inProgress = []) :
    nodes.foldl (syscallStep env (env.description.records.length + k)) acc =
      nodes.foldl (syscallStep env env.description.records.length) acc := by
  induction nodes generalizing acc with
  | nil => simp only [List.foldl_nil]
  | cons node rest ih =>
    obtain ⟨calls, unsupported, s⟩ := acc
    have after : (compileSyscall env env.description.records.length node s).2.inProgress = [] :=
      compileSyscall_preserves (fun s' => s'.inProgress = []) (fun _ _ _ _ => id)
        (fun n s' idle' => (recordLayout_inProgress _ n s').trans idle') node idle
    have same : compileSyscall env (env.description.records.length + k) node s =
        compileSyscall env env.description.records.length node s :=
      compileSyscall_add_fuel node idle
    have step : syscallStep env (env.description.records.length + k) (calls, unsupported, s) node =
        syscallStep env env.description.records.length (calls, unsupported, s) node := by
      simp only [syscallStep, same]
    rw [List.foldl_cons, List.foldl_cons, step]
    exact ih _ after

end Fuel

section Whole

/-- Compiling with a bound on how many structs may be open at once; the compiler bounds it by
the number of structs. -/
def compileAllWithin (env : Env) (fuel : Nat) : Program × State :=
  let d := env.description
  let (resources, unsupported, s) := compileResources env d.resources {}
  let s := layOutRecords env fuel d.records s
  let (records, unsupported, s) := keepRecords d.records unsupported s
  let (syscalls, unsupported, s) := compileSyscalls env fuel d.syscalls unsupported s
  ({ syscalls := numberSyscalls syscalls, resources, records,
     unsupported := sortedNames unsupported }, s)

theorem compileAll_eq_within (env : Env) :
    compileAll env = compileAllWithin env env.description.records.length := rfl

/-- Whatever the structs, constants and target, the compiler's bound on open structs is never
what stops it: any larger bound compiles to the same program and state. The walk that collects
missing constants visits each struct at most once. -/
theorem compile_bounded_by_struct_count (env : Env) (k : Nat) :
    compileAllWithin env (env.description.records.length + k) = compileAll env ∧
      ∀ refs stack, (reachable refs stack []).Nodup := by
  refine ⟨?_, fun refs stack => reachable_nodup stack [] List.nodup_nil⟩
  -- no struct is in progress between the phases, where the fuel is handed out afresh
  rcases phase₁ : compileResources env env.description.resources {} with
    ⟨resources, unsupported₁, s₁⟩
  have idle₁ : s₁.inProgress = [] := by
    have kept : (env.description.resources.foldl (resourceStep env) ([], [], {})).2.2.inProgress
        = [] :=
      compileResources_preserves (fun s => s.inProgress = []) (fun _ _ _ _ => id) (fun _ _ => id)
        env.description.resources ([], [], {}) rfl
    unfold compileResources at phase₁
    rwa [phase₁] at kept
  let s₂ := layOutRecords env env.description.records.length env.description.records s₁
  have idle₂ : s₂.inProgress = [] :=
    layOutRecords_preserves (fun s => s.inProgress = [])
      (fun n s' idle => (recordLayout_inProgress _ n s').trans idle) _ idle₁
  rcases phase₃ : keepRecords env.description.records unsupported₁ s₂ with
    ⟨records, unsupported₂, s₃⟩
  have idle₃ : s₃.inProgress = [] := by
    have state := keepRecords_state env.description.records ([], unsupported₁, s₂)
    unfold keepRecords at phase₃
    rw [phase₃] at state
    have same : s₃.inProgress = s₂.inProgress := congrArg (·.inProgress) state
    rw [same, idle₂]
  simp only [compileAllWithin, compileAll, phase₁, layOutRecords_add_fuel _ idle₁, s₂, phase₃,
    compileSyscalls, compileSyscalls_add_fuel _ ([], unsupported₂, s₃) idle₃]

end Whole

end SyscallTables.Compile
