import SyscallTables.Proofs.Compile.Missing

namespace SyscallTables.Compile

open Description

/-! The phases of compiling, each a fold over the items of the descriptions: resources bind
their types, every struct is laid out, the structs that miss no constant are kept, and the
syscalls are compiled. Each phase has a lemma for one turn and, by induction over the items,
one for the whole fold. -/

variable {env : Env} {s s₁ s₂ : State}

theorem Reached.trans (first : Reached env s s₁) (second : Reached env s₁ s₂) :
    Reached env s s₂ :=
  ⟨first.step.trans second.step, second.sound⟩

section Resources

/-- What compiling resources does to a state: it binds resource types and adds diagnostics. -/
structure Grows (s s' : State) : Prop where
  layouts : s'.layouts = s.layouts
  recordRefs : s'.recordRefs = s.recordRefs
  diagnostics : s.diagnostics <+: s'.diagnostics
  bound : ∀ k, (s.resourceTypes.lookup k).isSome → (s'.resourceTypes.lookup k).isSome

theorem Grows.refl (s : State) : Grows s s := ⟨rfl, rfl, List.prefix_refl _, fun _ => id⟩

theorem Grows.trans (first : Grows s s₁) (second : Grows s₁ s₂) : Grows s s₂ where
  layouts := second.layouts.trans first.layouts
  recordRefs := second.recordRefs.trans first.recordRefs
  diagnostics := first.diagnostics.trans second.diagnostics
  bound k bound := second.bound k (first.bound k bound)

theorem Grows.report (grows : Grows s s₁) (p : Position) (m : String) :
    Grows s (s₁.report p m) :=
  grows.trans ⟨rfl, rfl, List.prefix_append _ _, fun _ => id⟩

theorem resourceValue_grows (acc : List UInt64 × List String × State)
    (value : Position × String) : Grows acc.2.2 (resourceValue env acc value).2.2 := by
  fun_cases resourceValue env acc value with
  | case3 => exact (Grows.refl _).report _ _
  | _ => exact Grows.refl _

theorem resourceValues_grows (env : Env) (values : List (Position × String))
    (acc : List UInt64 × List String × State) :
    Grows acc.2.2 (values.foldl (resourceValue env) acc).2.2 := by
  induction values generalizing acc with
  | nil => exact Grows.refl _
  | cons value rest ih => exact (resourceValue_grows acc value).trans (ih _)

/-- A resource either binds its type or leaves a diagnostic. -/
theorem compileResource_grows (env : Env) (node : Description.Resource) (s : State) :
    Grows s (compileResource env node s).2 ∧
      (((compileResource env node s).2.resourceTypes.lookup node.name).isSome ∨
        (compileResource env node s).2.diagnostics ≠ []) := by
  have typed : Grows s (intType env node.base node.position s).2 :=
    intType_preserves (Grows s) (fun _ p m _ grows => grows.report p m) node.base (Grows.refl s)
  fun_cases compileResource env node s with
  | case1 s₁ untyped =>
    rw [untyped] at typed
    refine ⟨typed, Or.inr ?_⟩
    simpa [untyped] using intType_fails (show (intType env node.base node.position s).1 = none by
      simp [untyped])
  | case2 base s₁ baseTyped =>
    rename_i s₂ values unsupported s₃ folded
    rw [baseTyped] at typed
    have binding : Grows s₁ s₂ := by
      refine ⟨rfl, rfl, List.prefix_refl _, fun k bound => ?_⟩
      by_cases here : k = node.name <;> simp [s₂, here, bound]
    have valued := resourceValues_grows env node.values ([], [], s₂)
    rw [folded] at valued
    exact ⟨typed.trans (binding.trans valued), Or.inl (valued.bound node.name (by simp [s₂]))⟩

theorem resourceStep_fold (env : Env) (nodes : List Description.Resource)
    (acc : List Resource × List String × State) :
    Grows acc.2.2 (nodes.foldl (resourceStep env) acc).2.2 ∧
      ∀ node ∈ nodes, ((nodes.foldl (resourceStep env) acc).2.2.resourceTypes.lookup
        node.name).isSome ∨ (nodes.foldl (resourceStep env) acc).2.2.diagnostics ≠ [] := by
  induction nodes generalizing acc with
  | nil => exact ⟨Grows.refl _, by simp⟩
  | cons node rest ih =>
    obtain ⟨turn, typed⟩ := compileResource_grows env node acc.2.2
    obtain ⟨later, restTyped⟩ := ih (resourceStep env acc node)
    refine ⟨turn.trans later, ?_⟩
    intro other member
    rcases List.mem_cons.mp member with rfl | inRest
    · rcases typed with bound | owed
      · exact Or.inl (later.bound _ bound)
      · refine Or.inr fun empty => owed ?_
        rw [List.foldl_cons] at empty
        obtain ⟨added, grown⟩ := later.diagnostics
        rw [empty, List.append_eq_nil_iff] at grown
        exact grown.1
    · exact restTyped other inRest

section Preserved

variable (P : State → Prop) (reported : ∀ s p m, NotRecursion m → P s → P (s.report p m))
  (retyped : ∀ s types, P s → P { s with resourceTypes := types })

include reported in
theorem resourceValues_preserves (values : List (Position × String))
    (acc : List UInt64 × List String × State) (holds : P acc.2.2) :
    P (values.foldl (resourceValue env) acc).2.2 := by
  induction values generalizing acc with
  | nil => exact holds
  | cons value rest ih =>
    refine ih _ ?_
    fun_cases resourceValue env acc value with
    | case3 => exact reported _ _ _ (notRecursion_of_head (by simp)) holds
    | _ => exact holds

include reported retyped in
theorem compileResource_preserves (node : Description.Resource) (holds : P s) :
    P (compileResource env node s).2 := by
  have typed : P (intType env node.base node.position s).2 :=
    intType_preserves P reported node.base holds
  fun_cases compileResource env node s with
  | case1 s₁ untyped =>
    rw [untyped] at typed
    exact typed
  | case2 base s₁ baseTyped =>
    rename_i s₂ values unsupported s₃ folded
    rw [baseTyped] at typed
    have valued : P (node.values.foldl (resourceValue env) ([], [], s₂)).2.2 :=
      resourceValues_preserves P reported node.values ([], [], s₂) (retyped _ _ typed)
    rwa [folded] at valued

include reported retyped in
/-- What holds of a state and survives every report that names no struct as recursive, and
every change of the resource types, holds once the resources are compiled. -/
theorem compileResources_preserves (nodes : List Description.Resource)
    (acc : List Resource × List String × State) (holds : P acc.2.2) :
    P (nodes.foldl (resourceStep env) acc).2.2 := by
  induction nodes generalizing acc with
  | nil => exact holds
  | cons node rest ih => exact ih _ (compileResource_preserves P reported retyped node holds)

end Preserved

/-- Once the resources are compiled, every resource has a type or a diagnostic stands. -/
theorem compileResources_sound :
    Sound env (compileResources env env.description.resources {}).2.2 := by
  obtain ⟨grows, typed⟩ := resourceStep_fold env env.description.resources ([], [], {})
  refine ⟨fun n resource => ?_, fun n failed => ?_, fun n l laid => ?_⟩
  · obtain ⟨node, member, named⟩ := List.any_eq_true.mp resource
    rw [beq_iff_eq] at named
    subst named
    exact typed node member
  · simp [compileResources, grows.layouts] at failed
  · simp [compileResources, grows.layouts] at laid

end Resources

section Records

variable {fuel : Nat}

theorem layOutRecords_reached (sound : LayoutSound env (recordLayout env fuel))
    (nodes : List Description.Record) (hs : Sound env s) :
    Reached env s (layOutRecords env fuel nodes s) := by
  induction nodes generalizing s with
  | nil => exact Reached.start hs
  | cons node rest ih =>
    have first := sound.step node.name s hs
    exact first.trans (ih first.sound)

/-- Every struct laid out in turn is bound at the end. -/
theorem layOutRecords_binds (sound : LayoutSound env (recordLayout env fuel))
    (nodes : List Description.Record) (hs : Sound env s) :
    ∀ node ∈ nodes, (findRecord env node.name).isSome →
      ((layOutRecords env fuel nodes s).layouts.lookup node.name).isSome := by
  induction nodes generalizing s with
  | nil => simp
  | cons node rest ih =>
    intro other member found
    have first := sound.step node.name s hs
    rcases List.mem_cons.mp member with rfl | inRest
    · have bound : ((recordLayout env fuel other.name s).2.layouts.lookup other.name).isSome :=
        recordLayout_binds found
      have later := layOutRecords_reached sound rest first.sound
      rw [← (later.step.settled other.name (Or.inl bound)).1] at bound
      exact bound
    · exact ih first.sound other inRest found

theorem layOutRecords_preserves (P : State → Prop)
    (laidOut : ∀ n s, P s → P (recordLayout env fuel n s).2) (nodes : List Description.Record)
    (holds : P s) : P (layOutRecords env fuel nodes s) := by
  induction nodes generalizing s with
  | nil => exact holds
  | cons node rest ih => exact ih (laidOut node.name s holds)

theorem layOutRecords_described (nodes : List Description.Record) (described : Described s) :
    Described (layOutRecords env fuel nodes s) := by
  induction nodes generalizing s with
  | nil => exact described
  | cons node rest ih => exact ih (recordLayout_described fuel node.name described)

/-- Once the resources are typed, laying out every struct reaches a sound state in which every
struct of the descriptions is bound and every struct laid out has its description. -/
theorem layOutRecords_after_resources (distinct : env.description.Distinct)
    (wf : env.description.WellFormed) :
    Reached env (compileResources env env.description.resources {}).2.2
        (layOutRecords env env.description.records.length env.description.records
          (compileResources env env.description.resources {}).2.2) ∧
      (∀ node ∈ env.description.records,
        ((layOutRecords env env.description.records.length env.description.records
          (compileResources env env.description.resources {}).2.2).layouts.lookup
            node.name).isSome) ∧
      Described (layOutRecords env env.description.records.length env.description.records
        (compileResources env env.description.resources {}).2.2) := by
  have sound := recordLayout_sound distinct wf env.description.records.length
  -- typing the resources lays out no struct
  have unlaid : (compileResources env env.description.resources {}).2.2.layouts = [] :=
    (resourceStep_fold env env.description.resources ([], [], {})).1.layouts
  refine ⟨layOutRecords_reached sound _ compileResources_sound, fun node member => ?_,
    layOutRecords_described _ fun k l laid => by simp [unlaid] at laid⟩
  exact layOutRecords_binds sound env.description.records compileResources_sound node member
    (by simp [findRecord_of_mem distinct member])

end Records

section Kept

theorem transitiveMissing_descs (s : State) (descs : List (String × RecordDesc))
    (start : List String) (extra : Refs) :
    transitiveMissing { s with descs } start extra = transitiveMissing s start extra := rfl

theorem recordStep_state (acc : List RecordDesc × List String × State)
    (node : Description.Record) :
    (recordStep acc node).2.2 = { acc.2.2 with descs := (recordStep acc node).2.2.descs } := by
  obtain ⟨records, unsupported, s⟩ := acc
  by_cases empty : (transitiveMissing s [node.name] {}).isEmpty
  · cases found : s.descs.lookup node.name <;> simp [recordStep, empty, found]
  · simp [recordStep, empty]

theorem recordStep_descs (acc : List RecordDesc × List String × State)
    (node : Description.Record) (k : String) (other : k ≠ node.name) :
    (recordStep acc node).2.2.descs.lookup k = acc.2.2.descs.lookup k := by
  obtain ⟨records, unsupported, s⟩ := acc
  by_cases empty : (transitiveMissing s [node.name] {}).isEmpty
  · cases found : s.descs.lookup node.name <;>
      simp [recordStep, empty, found, lookup_filter_ne, other]
  · simp [recordStep, empty]

/-- A struct's turn: kept, under its name, exactly when it misses no constant. -/
theorem recordStep_names (acc : List RecordDesc × List String × State) (node : Description.Record)
    (described : ∃ desc, acc.2.2.descs.lookup node.name = some desc ∧ desc.name = node.name) :
    (recordStep acc node).1.map (·.name) = acc.1.map (·.name) ++
      ([node].filter fun node => (transitiveMissing acc.2.2 [node.name] {}).isEmpty).map
        (·.name) := by
  obtain ⟨records, unsupported, s⟩ := acc
  obtain ⟨desc, found, named⟩ := described
  by_cases empty : (transitiveMissing s [node.name] {}).isEmpty
  · simp [recordStep, empty, found, named]
  · simp [recordStep, empty]

theorem keepRecords_state (nodes : List Description.Record)
    (acc : List RecordDesc × List String × State) :
    (nodes.foldl recordStep acc).2.2 =
      { acc.2.2 with descs := (nodes.foldl recordStep acc).2.2.descs } := by
  induction nodes generalizing acc with
  | nil => rfl
  | cons node rest ih => rw [List.foldl_cons, ih, recordStep_state acc node]

/-- Keeping structs changes nothing of the state but its descriptions. -/
theorem keepRecords_eq_state {nodes : List Description.Record} {unsupported : List String}
    {s : State} {records unsupported' s'}
    (kept : keepRecords nodes unsupported s = (records, unsupported', s')) :
    s' = { s with descs := s'.descs } := by
  have state := keepRecords_state nodes ([], unsupported, s)
  unfold keepRecords at kept
  rwa [kept] at state

/-- The structs kept are, in order, those that miss no constant. -/
theorem keepRecords_names (nodes : List Description.Record)
    (acc : List RecordDesc × List String × State) (nodup : (nodes.map (·.name)).Nodup)
    (described : ∀ node ∈ nodes,
      ∃ desc, acc.2.2.descs.lookup node.name = some desc ∧ desc.name = node.name) :
    (nodes.foldl recordStep acc).1.map (·.name) = acc.1.map (·.name) ++
      (nodes.filter fun node => (transitiveMissing acc.2.2 [node.name] {}).isEmpty).map
        (·.name) := by
  induction nodes generalizing acc with
  | nil => simp
  | cons node rest ih =>
    rw [List.map_cons, List.nodup_cons] at nodup
    have describedRest : ∀ other ∈ rest, ∃ desc, (recordStep acc node).2.2.descs.lookup
        other.name = some desc ∧ desc.name = other.name := by
      intro other member
      have differs : other.name ≠ node.name := fun same =>
        nodup.1 (same ▸ List.mem_map_of_mem member)
      rw [recordStep_descs acc node other.name differs]
      exact described other (List.mem_cons_of_mem _ member)
    have sameWalk : ∀ k, transitiveMissing (recordStep acc node).2.2 [k] {} =
        transitiveMissing acc.2.2 [k] {} := by
      intro k
      rw [recordStep_state, transitiveMissing_descs]
    rw [List.foldl_cons, ih (recordStep acc node) nodup.2 describedRest,
      recordStep_names acc node (described node (by simp))]
    simp only [sameWalk, List.filter_cons, List.filter_nil, List.append_assoc]
    split <;> simp

end Kept

section Syscalls

variable {fuel : Nat}

/-- Compiling a syscall resolves its arguments, then its return type, then its number. It is
kept when nothing it reaches misses a constant, and built when its arguments and its return
type resolved. -/
theorem compileSyscall_eq {node : Description.Syscall} {fields ok r₁ s₁ ret retOk r₂ s₂ nr r₃}
    (resolved : resolveFields env (recordLayout env fuel) node.args {} s = ((fields, ok), r₁, s₁))
    (typed : returnType env (recordLayout env fuel) node r₁ s₁ = ((ret, retOk), r₂, s₂))
    (numbered : syscallNumber env node.callName r₂ = (nr, r₃)) :
    compileSyscall env fuel node s =
      if (transitiveMissing s₂ [] r₃).isEmpty then
        ((if ok && retOk then some ⟨0, nr, node.name, node.callName, fields, ret⟩ else none, []),
          s₂)
      else ((none, transitiveMissing s₂ [] r₃), s₂) := by
  simp only [compileSyscall, resolved, typed, numbered]

/-- Compiling a syscall leaves the state that resolving its return type left. -/
theorem compileSyscall_state (node : Description.Syscall) (s : State) :
    (compileSyscall env fuel node s).2 =
      (returnType env (recordLayout env fuel) node
        (resolveFields env (recordLayout env fuel) node.args {} s).2.1
        (resolveFields env (recordLayout env fuel) node.args {} s).2.2).2.2 := by
  rcases resolved : resolveFields env (recordLayout env fuel) node.args {} s with
    ⟨⟨fields, ok⟩, r₁, s₁⟩
  rcases typed : returnType env (recordLayout env fuel) node r₁ s₁ with ⟨⟨ret, retOk⟩, r₂, s₂⟩
  rcases numbered : syscallNumber env node.callName r₂ with ⟨nr, r₃⟩
  rw [compileSyscall_eq resolved typed numbered]
  split <;> rfl

theorem compileSyscall_reached (sound : LayoutSound env (recordLayout env fuel))
    (node : Description.Syscall) (hs : Sound env s) :
    Reached env s (compileSyscall env fuel node s).2 := by
  have first : Reached env s (resolveFields env (recordLayout env fuel) node.args {} s).2.2 :=
    resolveFields_step sound node.args hs
  rw [compileSyscall_state]
  exact first.trans (returnType_step sound node first.sound)

section Preserved

variable (P : State → Prop) (reported : ∀ s p m, NotRecursion m → P s → P (s.report p m))
  (laidOut : ∀ n s, P s → P (recordLayout env fuel n s).2)

include reported laidOut in
theorem compileSyscall_preserves (node : Description.Syscall) (holds : P s) :
    P (compileSyscall env fuel node s).2 := by
  -- every struct a syscall lays out is asked for afresh, not from inside another struct
  have resolvedHolds : P (resolveFields env (recordLayout env fuel) node.args {} s).2.2 :=
    resolveFields_preserves P reported (fun _ => True) (fun n s _ => laidOut n s) node.args
      (fun _ _ _ _ => trivial) holds
  rw [compileSyscall_state]
  exact returnType_preserves P reported (fun _ => True) (fun n s _ => laidOut n s) node
    (fun _ _ _ => trivial) resolvedHolds

include reported laidOut in
theorem compileSyscalls_preserves (nodes : List Description.Syscall)
    (acc : List Syscall × List String × State) (holds : P acc.2.2) :
    P (nodes.foldl (syscallStep env fuel) acc).2.2 := by
  induction nodes generalizing acc with
  | nil => exact holds
  | cons node rest ih => exact ih _ (compileSyscall_preserves P reported laidOut node holds)

end Preserved

/-- A syscall whose arguments and return type raised no diagnostic resolved both. -/
theorem compileSyscall_resolved_of_quiet (sound : LayoutSound env (recordLayout env fuel))
    (wf : env.description.WellFormed) {node : Description.Syscall}
    (member : node ∈ env.description.syscalls) (hs : Sound env s) {fields ok r₁ s₁ ret retOk r₂ s₂}
    (resolved : resolveFields env (recordLayout env fuel) node.args {} s = ((fields, ok), r₁, s₁))
    (typed : returnType env (recordLayout env fuel) node r₁ s₁ = ((ret, retOk), r₂, s₂))
    (quiet : s₂.diagnostics = []) : ok = true ∧ retOk = true := by
  have first : Reached env s (resolveFields env (recordLayout env fuel) node.args {} s).2.2 :=
    resolveFields_step sound node.args hs
  rw [resolved] at first
  have second : Reached env s₁ (returnType env (recordLayout env fuel) node r₁ s₁).2.2 :=
    returnType_step sound node first.sound
  rw [typed] at second
  -- diagnostics only grow, so the arguments left none either
  have quietArgs : s₁.diagnostics = [] := List.prefix_nil.mp (quiet ▸ second.step.diagnostics)
  constructor
  · by_contra unresolved
    have owed : (resolveFields env (recordLayout env fuel) node.args {} s).2.2.diagnostics ≠ [] :=
      resolveFields_fails sound (wf.args node member) hs (by simp [resolved, unresolved])
    rw [resolved] at owed
    exact owed quietArgs
  · by_contra unresolved
    have owed : (returnType env (recordLayout env fuel) node r₁ s₁).2.2.diagnostics ≠ [] :=
      returnType_fails sound (wf.ret node member) first.sound (by simp [typed, unresolved])
    rw [typed] at owed
    exact owed quiet

/-- A syscall whose arguments and return type resolved collects as references its constants and
the structs its types name. -/
theorem compileSyscall_adds (distinct : env.description.Distinct) {node : Description.Syscall}
    {fields r₁ s₁ ret r₂ s₂ nr r₃}
    (resolved : resolveFields env (recordLayout env fuel) node.args {} s = ((fields, true), r₁, s₁))
    (typed : returnType env (recordLayout env fuel) node r₁ s₁ = ((ret, true), r₂, s₂))
    (numbered : syscallNumber env node.callName r₂ = (nr, r₃)) :
    Refs.Adds env {} r₃ (node.constants env.target) node.typeNames := by
  have args : Refs.Adds env {} (resolveFields env (recordLayout env fuel) node.args {} s).2.1
      (node.args.flatMap (·.type.constants)) (node.args.flatMap (·.type.typeNames)) :=
    resolveFields_adds distinct (by simp [resolved])
  have returned : Refs.Adds env r₁ (returnType env (recordLayout env fuel) node r₁ s₁).2.1
      ((node.ret.map (·.2.constants)).getD []) ((node.ret.map (·.2.typeNames)).getD []) :=
    returnType_adds distinct (by simp [typed])
  have number : Refs.Adds env r₂ (syscallNumber env node.callName r₂).2
      (node.numberConstant env.target) [] := syscallNumber_adds node
  rw [resolved] at args
  rw [typed] at returned
  rw [numbered] at number
  simpa [Syscall.constants, Syscall.typeNames] using (args.trans returned).trans number

/-- Without diagnostics, a syscall is kept, under its name, exactly when the target supports
it. -/
theorem compileSyscall_kept (distinct : env.description.Distinct)
    (wf : env.description.WellFormed) {node : Description.Syscall}
    (member : node ∈ env.description.syscalls) (hs : Sound env s) (settled : Settled env s)
    (quiet : (compileSyscall env fuel node s).2.diagnostics = []) :
    ((compileSyscall env fuel node s).1.1.isSome ↔
      env.description.SyscallSupported env.consts env.target node) ∧
      ∀ c, (compileSyscall env fuel node s).1.1 = some c → c.name = node.name := by
  have sound := recordLayout_sound distinct wf fuel
  rcases resolved : resolveFields env (recordLayout env fuel) node.args {} s with
    ⟨⟨fields, ok⟩, r₁, s₁⟩
  rcases typed : returnType env (recordLayout env fuel) node r₁ s₁ with ⟨⟨ret, retOk⟩, r₂, s₂⟩
  rcases numbered : syscallNumber env node.callName r₂ with ⟨nr, r₃⟩
  have result := compileSyscall_eq resolved typed numbered
  have quietEnd : s₂.diagnostics = [] := by
    rw [result] at quiet
    split at quiet <;> exact quiet
  obtain ⟨rfl, rfl⟩ := compileSyscall_resolved_of_quiet sound wf member hs resolved typed quietEnd
  -- the references collected reach exactly what the syscall needs bound
  have reached : Reached env s s₂ := by
    have both := compileSyscall_reached sound node hs
    rwa [compileSyscall_state, resolved, typed] at both
  have decided := syscall_missing_isEmpty_iff distinct reached.sound (settled.step reached.step)
    (compileSyscall_adds distinct resolved typed numbered)
  rw [result]
  by_cases empty : (transitiveMissing s₂ [] r₃).isEmpty
  · simp only [empty, if_true, Bool.and_self, Option.isSome_some, true_iff, Option.some.injEq]
    exact ⟨decided.mp empty, fun c built => built ▸ rfl⟩
  · simp only [empty, if_false, Bool.false_eq_true, Option.isSome_none, false_iff,
      reduceCtorEq, false_implies, implies_true, and_true]
    exact fun supported => empty (decided.mpr supported)

theorem compileSyscalls_reached (sound : LayoutSound env (recordLayout env fuel))
    (nodes : List Description.Syscall) (acc : List Syscall × List String × State)
    (hs : Sound env acc.2.2) : Reached env acc.2.2 (nodes.foldl (syscallStep env fuel) acc).2.2 := by
  induction nodes generalizing acc with
  | nil => exact Reached.start hs
  | cons node rest ih =>
    have first : Reached env acc.2.2 (syscallStep env fuel acc node).2.2 :=
      compileSyscall_reached sound node hs
    exact first.trans (ih _ first.sound)

/-- Without diagnostics, the syscalls compiled are, by name, exactly those the target
supports. -/
theorem compileSyscalls_fold (distinct : env.description.Distinct)
    (wf : env.description.WellFormed) (nodes : List Description.Syscall)
    (inDescription : ∀ c ∈ nodes, c ∈ env.description.syscalls)
    (acc : List Syscall × List String × State) (hs : Sound env acc.2.2)
    (settled : Settled env acc.2.2)
    (quiet : (nodes.foldl (syscallStep env fuel) acc).2.2.diagnostics = []) :
    ∃ calls, (nodes.foldl (syscallStep env fuel) acc).1 = acc.1 ++ calls ∧
      (∀ x ∈ calls, ∃ c ∈ nodes, x.name = c.name ∧
        env.description.SyscallSupported env.consts env.target c) ∧
      ∀ c ∈ nodes, env.description.SyscallSupported env.consts env.target c →
        ∃ x ∈ calls, x.name = c.name := by
  have sound := recordLayout_sound distinct wf fuel
  induction nodes generalizing acc with
  | nil => exact ⟨[], by simp, by simp, by simp⟩
  | cons node rest ih =>
    have first : Reached env acc.2.2 (compileSyscall env fuel node acc.2.2).2 :=
      compileSyscall_reached sound node hs
    have later := compileSyscalls_reached sound rest (syscallStep env fuel acc node) first.sound
    rw [List.foldl_cons] at quiet
    have quietTurn : (compileSyscall env fuel node acc.2.2).2.diagnostics = [] :=
      List.prefix_nil.mp (quiet ▸ later.step.diagnostics)
    obtain ⟨decided, named⟩ :=
      compileSyscall_kept distinct wf (inDescription node (by simp)) hs settled quietTurn
    obtain ⟨calls, folded, keptSupported, supportedKept⟩ :=
      ih (fun c member => inDescription c (List.mem_cons_of_mem _ member))
        (syscallStep env fuel acc node) first.sound (settled.step first.step) quiet
    refine ⟨(compileSyscall env fuel node acc.2.2).1.1.toList ++ calls, ?_, ?_, ?_⟩
    · rw [List.foldl_cons, folded]
      simp [syscallStep]
    · intro x member
      rcases List.mem_append.mp member with here | inRest
      · have built : (compileSyscall env fuel node acc.2.2).1.1 = some x := by
          simpa using here
        exact ⟨node, by simp, named x built, decided.mp (by simp [built])⟩
      · obtain ⟨c, inNodes, sameName, supported⟩ := keptSupported x inRest
        exact ⟨c, List.mem_cons_of_mem _ inNodes, sameName, supported⟩
    · intro c member supported
      rcases List.mem_cons.mp member with rfl | inRest
      · obtain ⟨x, built⟩ := Option.isSome_iff_exists.mp (decided.mpr supported)
        exact ⟨x, by simp [built], named x built⟩
      · obtain ⟨x, inCalls, sameName⟩ := supportedKept c inRest supported
        exact ⟨x, List.mem_append_right _ inCalls, sameName⟩

end Syscalls

section Whole

variable (P : State → Prop) (reported : ∀ s p m, NotRecursion m → P s → P (s.report p m))
  (redescribed : ∀ s descs, P s → P { s with descs := descs })
  (laidOut : ∀ n s, P s → P (recordLayout env env.description.records.length n s).2)

include reported redescribed laidOut in
/-- What holds once every struct is laid out, and survives the later steps, holds of the state
compiling ends in. -/
theorem compileAll_after_layout
    (holds : P (layOutRecords env env.description.records.length env.description.records
      (compileResources env env.description.resources {}).2.2)) :
    P (compileAll env).2 := by
  rcases phase₁ : compileResources env env.description.resources {} with
    ⟨resources, unsupported₁, s₁⟩
  rw [phase₁] at holds
  let s₂ := layOutRecords env env.description.records.length env.description.records s₁
  rcases phase₃ : keepRecords env.description.records unsupported₁ s₂ with
    ⟨records, unsupported₂, s₃⟩
  rcases phase₄ : compileSyscalls env env.description.records.length env.description.syscalls
    unsupported₂ s₃ with ⟨syscalls, unsupported₃, s₄⟩
  have whole : (compileAll env).2 = s₄ := by simp only [compileAll, phase₁, s₂, phase₃, phase₄]
  -- keeping structs only drops descriptions
  have kept : P s₃ := by
    rw [keepRecords_eq_state phase₃]
    exact redescribed _ _ holds
  have compiled := compileSyscalls_preserves P reported laidOut env.description.syscalls
    ([], unsupported₂, s₃) kept
  unfold compileSyscalls at phase₄
  rw [phase₄] at compiled
  rw [whole]
  exact compiled

include reported redescribed laidOut in
/-- What holds of the empty state and survives every step holds of the state compiling ends
in. -/
theorem compileAll_preserves (retyped : ∀ s types, P s → P { s with resourceTypes := types })
    (start : P {}) : P (compileAll env).2 := by
  refine compileAll_after_layout P reported redescribed laidOut ?_
  exact layOutRecords_preserves P laidOut _
    (compileResources_preserves P reported retyped _ ([], [], {}) start)

end Whole

end SyscallTables.Compile
