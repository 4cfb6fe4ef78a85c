import SyscallTables.Description.Reader
import SyscallTables.Proofs.Compile.Dependencies

namespace SyscallTables

open Description

/-! Descriptions read without diagnostics are the ones the compiler expects: every type
applied to arguments has at least one, and resources, structs and syscalls have distinct
names, none of a type redefining a builtin one. -/

theorem bind_eq_ok {ε α β : Type} {x : Except ε α} {f : α → Except ε β} {b : β}
    (bound : x >>= f = .ok b) : ∃ a, x = .ok a ∧ f a = .ok b := by
  cases x with
  | error e => cases bound
  | ok a => exact ⟨a, rfl, bound⟩

namespace TypeExpr

theorem read_wellFormed (fuel : Nat) :
    (∀ c e c', readExpr fuel c = .ok (e, c') → e.WellFormed) ∧
      ∀ n acc c e c', readArgs fuel n acc c = .ok (e, c') → acc ≠ [] →
        (∀ a ∈ acc, a.WellFormed) → e.WellFormed := by
  -- the two readers call each other with one less fuel
  induction fuel with
  | zero =>
    refine ⟨fun c e c' read => ?_, fun n acc c e c' read => ?_⟩ <;>
      simp [readExpr, readArgs] at read
  | succ fuel ih =>
    obtain ⟨exprs, args⟩ := ih
    refine ⟨fun c e c' read => ?_, fun n acc c e c' read nonempty each => ?_⟩
    · simp only [readExpr] at read
      obtain ⟨⟨n, c₁⟩, _, rest⟩ := bind_eq_ok read
      split at rest
      · obtain ⟨⟨first, c₂⟩, firstRead, argsRead⟩ := bind_eq_ok rest
        exact args n [first] c₂ e c' argsRead (by simp) (by simpa using exprs _ _ _ firstRead)
      · simp only [pure, Except.pure, Except.ok.injEq, Prod.mk.injEq] at rest
        rw [← rest.1]
        exact .ident n
    · simp only [readArgs] at read
      split at read
      · obtain ⟨⟨arg, c₂⟩, argRead, argsRead⟩ := bind_eq_ok read
        refine args n (acc ++ [arg]) c₂ e c' argsRead (by simp) fun a member => ?_
        rcases List.mem_append.mp member with old | new
        · exact each a old
        · rw [List.mem_singleton.mp new]
          exact exprs _ _ _ argRead
      · simp only [pure, Except.pure, Except.ok.injEq, Prod.mk.injEq] at read
        rw [← read.1]
        exact .apply n acc nonempty each
      · cases read

theorem parse_wellFormed {input : String} {e : TypeExpr} (parsed : parse input = .ok e) :
    e.WellFormed := by
  simp only [parse] at parsed
  obtain ⟨⟨e', c⟩, readOk, rest⟩ := bind_eq_ok parsed
  split at rest
  · simp only [pure, Except.pure, Except.ok.injEq] at rest
    rw [← rest]
    exact (read_wellFormed _).1 _ _ _ readOk
  · cases rest

end TypeExpr

namespace Description

/-- Every type of a field, an argument or a return is well formed. -/
theorem WellFormed.of_same {d d' : Description} (wf : d.WellFormed)
    (records : d'.records = d.records) (syscalls : d'.syscalls = d.syscalls) : d'.WellFormed :=
  ⟨by rw [records]; exact wf.fields, by rw [syscalls]; exact wf.args,
    by rw [syscalls]; exact wf.ret⟩

theorem WellFormed.addRecord {d : Description} (wf : d.WellFormed) {r : Record}
    (fields : ∀ f ∈ r.fields, f.type.WellFormed) :
    ({ d with records := d.records ++ [r] } : Description).WellFormed := by
  refine ⟨fun r' member => ?_, wf.args, wf.ret⟩
  rcases List.mem_append.mp member with old | new
  · exact wf.fields r' old
  · rw [List.mem_singleton.mp new]
    exact fields

theorem WellFormed.addSyscall {d : Description} (wf : d.WellFormed) {c : Syscall}
    (args : ∀ f ∈ c.args, f.type.WellFormed)
    (ret : ∀ p e, c.ret = some (p, e) → e.WellFormed) :
    ({ d with syscalls := d.syscalls ++ [c] } : Description).WellFormed := by
  refine ⟨wf.fields, fun c' member => ?_, fun c' member => ?_⟩
  · rcases List.mem_append.mp member with old | new
    · exact wf.args c' old
    · rw [List.mem_singleton.mp new]
      exact args
  · rcases List.mem_append.mp member with old | new
    · exact wf.ret c' old
    · rw [List.mem_singleton.mp new]
      exact ret

namespace Gathered

variable (locate : Toml.Span → Position)

@[simp] theorem report_description (g : Gathered) (p : Position) (message : String) :
    (g.report p message).description = g.description := rfl

@[simp] theorem report_diagnostics (g : Gathered) (p : Position) (message : String) :
    (g.report p message).diagnostics = g.diagnostics ++ [⟨p, message⟩] := rfl

/-- Reading a type changes no item, and what it reads is well formed. -/
theorem readType_spec (g : Gathered) (p : Position) (text : String) :
    (g.readType p text).1.description = g.description ∧
      ∀ t, (g.readType p text).2 = some t → t.WellFormed := by
  cases parsed : TypeExpr.parse text with
  | ok t => exact ⟨by simp [readType, parsed], fun t' read => by
      simp only [readType, parsed, Option.some.injEq] at read
      exact read ▸ TypeExpr.parse_wellFormed parsed⟩
  | error e => exact ⟨by simp [readType, parsed], fun t' read => by simp [readType, parsed] at read⟩

theorem readField_spec (state : Gathered × List Field) (f : FieldEntry)
    (fields : ∀ x ∈ state.2, x.type.WellFormed) :
    (readField locate state f).1.description = state.1.description ∧
      ∀ x ∈ (readField locate state f).2, x.type.WellFormed := by
  obtain ⟨g, acc⟩ := state
  obtain ⟨same, wf⟩ := g.readType_spec (locate f.type.2) f.type.1
  rcases read : g.readType (locate f.type.2) f.type.1 with ⟨g', t⟩
  rw [read] at same wf
  cases t with
  | none => exact ⟨by simpa [readField, read] using same, by simpa [readField, read] using fields⟩
  | some t =>
    refine ⟨by simpa [readField, read] using same, fun x member => ?_⟩
    simp only [readField, read, List.mem_append, List.mem_singleton] at member
    rcases member with old | rfl
    · exact fields x old
    · exact wf t rfl

/-- Reading fields changes no item, and keeps only fields of well-formed types. -/
theorem readFields_spec (g : Gathered) (fields : List FieldEntry) :
    (g.readFields locate fields).1.description = g.description ∧
      ∀ x ∈ (g.readFields locate fields).2, x.type.WellFormed := by
  -- the fold carries both facts from the empty list of fields read
  suffices kept : ∀ (state : Gathered × List Field), (∀ x ∈ state.2, x.type.WellFormed) →
      (fields.foldl (readField locate) state).1.description = state.1.description ∧
        ∀ x ∈ (fields.foldl (readField locate) state).2, x.type.WellFormed from
    kept (g, []) (by simp)
  induction fields with
  | nil => exact fun state wf => ⟨rfl, wf⟩
  | cons f fields ih =>
    intro state wf
    obtain ⟨same, wf'⟩ := readField_spec locate state f wf
    obtain ⟨same', wf''⟩ := ih _ wf'
    exact ⟨same'.trans same, wf''⟩

theorem addResource_wellFormed (g : Gathered) (r : ResourceEntry)
    (wf : g.description.WellFormed) : (g.addResource locate r).description.WellFormed := by
  obtain ⟨same, -⟩ := g.readType_spec (locate r.base.2) r.base.1
  rcases read : g.readType (locate r.base.2) r.base.1 with ⟨g', base⟩
  rw [read] at same
  rw [← same] at wf
  cases base with
  | none => simpa [addResource, read] using wf
  | some base =>
    simp only [addResource, read]
    exact wf.of_same rfl rfl

theorem addRecord_wellFormed (g : Gathered) (r : RecordEntry)
    (wf : g.description.WellFormed) : (g.addRecord locate r).description.WellFormed := by
  obtain ⟨same, fields⟩ := g.readFields_spec locate r.fields
  rw [← same] at wf
  exact wf.addRecord fields

theorem addSyscall_wellFormed (g : Gathered) (c : SyscallEntry)
    (wf : g.description.WellFormed) : (g.addSyscall locate c).description.WellFormed := by
  obtain ⟨same, args⟩ := g.readFields_spec locate c.args
  rcases fields : g.readFields locate c.args with ⟨g₁, read⟩
  rw [fields] at same args
  rw [← same] at wf
  -- the return type, when there is one, is read after the arguments
  cases ret : c.ret with
  | none =>
    simp only [addSyscall, fields, ret]
    exact wf.addSyscall args (by simp)
  | some r =>
    obtain ⟨same₂, typedWf⟩ := g₁.readType_spec (locate r.2) r.1
    rcases typed : g₁.readType (locate r.2) r.1 with ⟨g₂, t⟩
    rw [typed] at same₂ typedWf
    rw [← same₂] at wf
    cases t with
    | none =>
      simp only [addSyscall, fields, ret, typed]
      exact wf.addSyscall args (by simp)
    | some t =>
      simp only [addSyscall, fields, ret, typed]
      refine wf.addSyscall args fun p e returned => ?_
      simp only [Option.some.injEq, Prod.mk.injEq] at returned
      rw [← returned.2]
      exact typedWf t rfl

theorem addSource_wellFormed (g : Gathered) (file source : String)
    (wf : g.description.WellFormed) : (g.addSource file source).description.WellFormed := by
  unfold addSource
  split
  · simpa using wf
  · -- resources, then structs, then syscalls, each added to what came before
    refine List.foldlRecOn (motive := fun g : Gathered => g.description.WellFormed) _ _ ?_
      fun g wf c _ => addSyscall_wellFormed _ g c wf
    refine List.foldlRecOn (motive := fun g : Gathered => g.description.WellFormed) _ _ ?_
      fun g wf r _ => addRecord_wellFormed _ g r wf
    exact List.foldlRecOn (motive := fun g : Gathered => g.description.WellFormed) _ _ wf
      fun g wf r _ => addResource_wellFormed _ g r wf

/-- A name that is reported changes the diagnostics for good. -/
theorem diagnostics_ne_of_reported {g r : Gathered} {p : Position} {message : String}
    (grows : (g.report p message).diagnostics <+: r.diagnostics) :
    r.diagnostics ≠ g.diagnostics := by
  intro same
  have longer := grows.length_le
  simp only [same, report_diagnostics, List.length_append, List.length_singleton] at longer
  omega

/-- One definition's turn either reports it, or finds it fresh and records it as seen. -/
theorem redefinitionStep_cases (isBuiltin : String → Bool) (what : String) (g : Gathered)
    (seen : List (String × Position)) (name : String) (p : Position) :
    (∃ message seen', redefinitionStep isBuiltin what (g, seen) (name, p) =
        (g.report p message, seen')) ∨
      (isBuiltin name = false ∧ seen.lookup name = none ∧
        redefinitionStep isBuiltin what (g, seen) (name, p) = (g, (name, p) :: seen)) := by
  cases builtin : isBuiltin name with
  | true => exact .inl ⟨_, _, by simp only [redefinitionStep, builtin, if_true]; rfl⟩
  | false =>
    cases found : seen.lookup name with
    | some prev => exact .inl ⟨_, _, by simp only [redefinitionStep, builtin, found]; rfl⟩
    | none => exact .inr ⟨rfl, rfl, by simp [redefinitionStep, builtin, found]⟩

/-- Checking names for redefinitions changes no item and only adds diagnostics; when it adds
none, no name is builtin or seen before, and no two are equal. -/
theorem redefinitions_spec (isBuiltin : String → Bool) (what : String)
    (items : List (String × Position)) (g : Gathered) (seen : List (String × Position)) :
    (items.foldl (redefinitionStep isBuiltin what) (g, seen)).1.description = g.description ∧
      g.diagnostics <+: (items.foldl (redefinitionStep isBuiltin what) (g, seen)).1.diagnostics ∧
      ((items.foldl (redefinitionStep isBuiltin what) (g, seen)).1.diagnostics = g.diagnostics →
        (∀ x ∈ items, isBuiltin x.1 = false ∧ seen.lookup x.1 = none) ∧
          (items.map (·.1)).Nodup) := by
  induction items generalizing g seen with
  | nil => simp
  | cons item items ih =>
    obtain ⟨name, p⟩ := item
    rw [List.foldl_cons]
    rcases redefinitionStep_cases isBuiltin what g seen name p with
      ⟨message, seen', reported⟩ | ⟨builtin, found, fresh⟩
    · rw [reported]
      obtain ⟨same, grows, -⟩ := ih (g.report p message) seen'
      exact ⟨same, (List.prefix_append _ _).trans grows,
        fun quiet => absurd quiet (diagnostics_ne_of_reported grows)⟩
    · rw [fresh]
      obtain ⟨same, grows, quietRest⟩ := ih g ((name, p) :: seen)
      refine ⟨same, grows, fun quiet => ?_⟩
      obtain ⟨rest, nodup⟩ := quietRest quiet
      -- a later name is fresh after this one, so it differs from it and was not seen either
      have later : ∀ x ∈ items, isBuiltin x.1 = false ∧ x.1 ≠ name ∧ seen.lookup x.1 = none := by
        intro x member
        obtain ⟨notBuiltin, absent⟩ := rest x member
        by_cases same : x.1 = name
        · simp [same] at absent
        · simp only [List.lookup_cons, beq_eq_false_iff_ne.mpr same] at absent
          exact ⟨notBuiltin, same, absent⟩
      refine ⟨fun x member => ?_, List.nodup_cons.mpr ⟨fun named => ?_, nodup⟩⟩
      · rcases List.mem_cons.mp member with rfl | member
        · exact ⟨builtin, found⟩
        · exact ⟨(later x member).1, (later x member).2.2⟩
      · obtain ⟨x, member, xName⟩ := List.mem_map.mp named
        exact (later x member).2.1 xName

/-- The duplicate check changes no item; when it reports nothing, the names are distinct. -/
theorem checkDuplicates_spec (g : Gathered) :
    g.checkDuplicates.description = g.description ∧
      (g.checkDuplicates.diagnostics = [] → g.description.Distinct) := by
  let types := g.description.resources.map (fun r => (r.name, r.position)) ++
    g.description.records.map (fun s => (s.name, s.position))
  let calls := g.description.syscalls.map fun c => (c.name, c.position)
  obtain ⟨same₁, grows₁, quiet₁⟩ :=
    redefinitions_spec (builtinTypes.contains ·) "type" types g []
  let g₁ := (types.foldl (redefinitionStep (builtinTypes.contains ·) "type") (g, [])).1
  obtain ⟨same₂, grows₂, quiet₂⟩ := redefinitions_spec (fun _ => false) "syscall" calls g₁ []
  have checked : g.checkDuplicates =
      (calls.foldl (redefinitionStep (fun _ => false) "syscall") (g₁, [])).1 := rfl
  rw [checked]
  refine ⟨same₂.trans same₁, fun quiet => ?_⟩
  -- no diagnostic at the end means none from either check
  have quietTypes : g₁.diagnostics = [] := List.prefix_nil.mp (quiet ▸ grows₂)
  have quietBefore : g.diagnostics = [] := List.prefix_nil.mp (quietTypes ▸ grows₁)
  obtain ⟨typesFresh, typesNodup⟩ := quiet₁ (quietTypes.trans quietBefore.symm)
  obtain ⟨-, callsNodup⟩ := quiet₂ (quiet.trans quietTypes.symm)
  refine ⟨?_, fun n named => ?_, ?_⟩
  · simpa [types, recordNames, Function.comp_def] using typesNodup
  · have named' : n ∈ types.map (·.1) := by
      simpa [types, recordNames, Function.comp_def] using named
    obtain ⟨x, member, rfl⟩ := List.mem_map.mp named'
    simpa using (typesFresh x member).1
  · simpa [calls, Function.comp_def] using callsNodup

end Gathered

theorem Gathered.addFile_wellFormed (t : FileTree) (cwd : Location) (g : Gathered) (path : Path)
    (wf : g.description.WellFormed) : (Gathered.addFile t cwd g path).description.WellFormed := by
  unfold Gathered.addFile
  split
  · exact (g.addSource_wellFormed _ _ wf).of_same rfl rfl
  · exact wf.of_same rfl rfl

/-- Descriptions read without a diagnostic have distinct names and well-formed types. -/
theorem readPattern_spec {t : FileTree} {cwd : Location} {pattern : Path} {d : Description}
    (read : readPattern t cwd pattern = .ok d) : d.Distinct ∧ d.WellFormed := by
  unfold readPattern at read
  split at read
  · cases read
  · rename_i files _
    generalize built : files.foldl (Gathered.addFile t cwd) {} = g at read
    have wf : g.description.WellFormed := by
      rw [← built]
      exact List.foldlRecOn (motive := fun g : Gathered => g.description.WellFormed) _ _
        ⟨by simp, by simp, by simp⟩ fun g wf path _ => Gathered.addFile_wellFormed t cwd g path wf
    obtain ⟨same, distinct⟩ := g.checkDuplicates_spec
    dsimp only at read
    split at read
    · rename_i quiet
      cases read
      rw [same]
      exact ⟨distinct (List.isEmpty_iff.mp quiet), wf⟩
    · cases read

end Description

end SyscallTables
