import Mathlib
import SyscallTables.Proofs.Compile.Phases
import SyscallTables.Proofs.Description.Reading

namespace SyscallTables

open Description Compile

/-! What a compiled program keeps. When compiling succeeds, a syscall is in the program
exactly when the target binds every constant it names and every constant named by a struct it
reaches, through fields and pointers and any cycle of them; likewise a struct is kept, in the
order of the descriptions, exactly when the target binds the constants of every struct it
reaches. Hence nothing kept refers to a struct that was left out. -/

theorem numberSyscalls_map_name (syscalls : List Syscall) :
    (numberSyscalls syscalls).map (·.name) =
      (syscalls.mergeSort fun a b => decide (a.name ≤ b.name)).map (·.name) := by
  simp only [numberSyscalls, List.map_map]
  conv => rhs; rw [← List.zipIdx_map_fst 0 (syscalls.mergeSort _)]
  rw [List.map_map]
  exact List.map_congr_left fun _ _ => rfl

theorem numberSyscalls_names (syscalls : List Syscall) :
    ((numberSyscalls syscalls).map (·.name)).Perm (syscalls.map (·.name)) := by
  rw [numberSyscalls_map_name]
  exact (List.mergeSort_perm _ _).map _

theorem mem_numberSyscalls {c : Syscall} {calls : List Syscall}
    (member : c ∈ numberSyscalls calls) : ∃ c' ∈ calls, ∃ i, c = { c' with id := i } := by
  simp only [numberSyscalls, List.mem_map, Prod.exists] at member
  obtain ⟨c', i, numbered, rfl⟩ := member
  exact ⟨c', (List.mergeSort_perm _ _).mem_iff.mp (List.fst_mem_of_mem_zipIdx numbered), i, rfl⟩

/-- Under distinct keys, a list that holds an entry of the same key for exactly the nodes that
pass a test holds a node's key exactly when that node passes. -/
theorem key_mem_iff_of_keeps {α β κ : Type*} {keyA : α → κ} {keyB : β → κ} {nodes : List α}
    (nodup : (nodes.map keyA).Nodup) {kept : List β} {P : α → Prop}
    (keptPasses : ∀ x ∈ kept, ∃ a ∈ nodes, keyB x = keyA a ∧ P a)
    (passesKept : ∀ a ∈ nodes, P a → ∃ x ∈ kept, keyB x = keyA a)
    {a : α} (member : a ∈ nodes) : keyA a ∈ kept.map keyB ↔ P a := by
  constructor
  · intro named
    obtain ⟨x, inKept, sameKey⟩ := List.mem_map.mp named
    obtain ⟨other, otherMember, otherKey, passes⟩ := keptPasses x inKept
    obtain rfl := List.inj_on_of_nodup_map nodup otherMember member (otherKey.symm.trans sameKey)
    exact passes
  · intro passes
    obtain ⟨x, inKept, sameKey⟩ := passesKept a member passes
    exact List.mem_map.mpr ⟨x, inKept, sameKey⟩

theorem key_mem_filter_iff {α κ : Type*} {key : α → κ} {nodes : List α}
    (nodup : (nodes.map key).Nodup) (keep : α → Bool) {a : α} (member : a ∈ nodes) :
    key a ∈ (nodes.filter keep).map key ↔ keep a :=
  key_mem_iff_of_keeps nodup
    (fun x kept => ⟨x, (List.mem_filter.mp kept).1, rfl, (List.mem_filter.mp kept).2⟩)
    (fun x member keeps => ⟨x, List.mem_filter.mpr ⟨member, keeps⟩, rfl⟩) member

variable {d : Description} {consts : ConstTable} {target : Target} {p : Program}

theorem compile_quiet (compiled : d.compile consts target = .ok p) :
    (compileAll ⟨d, consts, target⟩).2.diagnostics = [] ∧ (compileAll ⟨d, consts, target⟩).1 = p := by
  unfold Description.compile at compiled
  rcases built : compileAll ⟨d, consts, target⟩ with ⟨program, state⟩
  rw [built] at compiled
  by_cases quiet : state.diagnostics.isEmpty
  · simp only [quiet, if_true, Except.ok.injEq] at compiled
    exact ⟨List.isEmpty_iff.mp quiet, compiled⟩
  · simp [quiet] at compiled

/-- When descriptions with distinct names and well-formed types compile, the program keeps
exactly the syscalls and structs the target supports, the structs in their order. -/
theorem compile_keeps_supported (distinct : d.Distinct) (wf : d.WellFormed)
    (compiled : d.compile consts target = .ok p) :
    (∀ c ∈ d.syscalls, c.name ∈ p.syscalls.map (·.name) ↔ d.SyscallSupported consts target c) ∧
      (p.records.map (·.name)).Sublist d.recordNames ∧
      ∀ r ∈ d.records, r.name ∈ p.records.map (·.name) ↔ d.RecordSupported consts r := by
  obtain ⟨quiet, built⟩ := compile_quiet compiled
  subst built
  let env : Env := ⟨d, consts, target⟩
  rw [show (⟨d, consts, target⟩ : Env) = env from rfl] at quiet ⊢
  let fuel := env.description.records.length
  -- laying out every struct binds each one, keeping the state sound and described
  obtain ⟨reached₂, bound₂, described₂⟩ := @layOutRecords_after_resources env distinct wf
  -- the four phases, from the empty state
  rcases phase₁ : compileResources env env.description.resources {} with
    ⟨resources, unsupported₁, s₁⟩
  rw [phase₁] at reached₂ bound₂ described₂
  dsimp only at reached₂ bound₂ described₂
  let s₂ := layOutRecords env fuel env.description.records s₁
  rcases phase₃ : keepRecords env.description.records unsupported₁ s₂ with
    ⟨records, unsupported₂, s₃⟩
  rcases phase₄ : compileSyscalls env fuel env.description.syscalls unsupported₂ s₃ with
    ⟨syscalls, unsupported₃, s₄⟩
  have whole : compileAll env =
      ((⟨numberSyscalls syscalls, resources, records, sortedNames unsupported₃⟩ : Program), s₄) := by
    simp only [compileAll, phase₁, fuel, s₂, phase₃, phase₄]
  rw [whole] at quiet ⊢
  have hs₂ : Sound env s₂ := reached₂.sound
  -- phase three only drops descriptions
  have state₃ := keepRecords_eq_state phase₃
  have hs₃ : Sound env s₃ := by
    rw [state₃]
    exact ⟨hs₂.resources, hs₂.failed, hs₂.laidOut⟩
  unfold compileSyscalls at phase₄
  have reached₄ : Reached env s₃ s₄ := by
    have later := compileSyscalls_reached (recordLayout_sound distinct wf fuel)
      env.description.syscalls ([], unsupported₂, s₃) hs₃
    rwa [phase₄] at later
  -- so with no diagnostic at the end there was none before, and every struct is laid out
  dsimp only at quiet ⊢
  have quiet₂ : s₂.diagnostics = [] := by
    have quiet₃ : s₃.diagnostics = [] := List.prefix_nil.mp (quiet ▸ reached₄.step.diagnostics)
    rw [state₃] at quiet₃
    exact quiet₃
  have settled₂ : Settled env s₂ := by
    intro node member
    obtain ⟨layout, laid⟩ := Option.isSome_iff_exists.mp (bound₂ node member)
    cases layout with
    | none => exact absurd quiet₂ (hs₂.failed node.name laid)
    | some l => exact ⟨l, laid⟩
  have settled₃ : Settled env s₃ := by
    rw [state₃]
    exact settled₂
  have names₃ : records.map (·.name) = (env.description.records.filter fun node =>
      (transitiveMissing s₂ [node.name] {}).isEmpty).map (·.name) := by
    have kept := keepRecords_names env.description.records ([], unsupported₁, s₂)
      distinct.recordNames_nodup fun node member => by
        obtain ⟨l, laid⟩ := settled₂ node member
        exact described₂ node.name l laid
    unfold keepRecords at phase₃
    rw [phase₃] at kept
    simpa using kept
  obtain ⟨calls, folded, keptSupported, supportedKept⟩ :=
    compileSyscalls_fold distinct wf env.description.syscalls (fun _ member => member)
      ([], unsupported₂, s₃) hs₃ settled₃ (by rw [phase₄]; exact quiet)
  simp only [phase₄, List.nil_append] at folded
  refine ⟨fun c member => ?_, ?_, fun r member => ?_⟩
  · rw [(numberSyscalls_names syscalls).mem_iff, folded]
    exact key_mem_iff_of_keeps distinct.syscalls keptSupported supportedKept member
  · rw [names₃]
    exact List.filter_sublist.map _
  · rw [names₃, key_mem_filter_iff distinct.recordNames_nodup _ member,
      record_missing_isEmpty_iff distinct hs₂ settled₂ member]

/-- What a program keeps of its descriptions: exactly the syscalls and structs the target
supports, the structs in their order, and so nothing that reaches a struct left out. -/
structure KeepsSupported (d : Description) (consts : ConstTable) (target : Target)
    (p : Program) : Prop where
  syscalls : ∀ c ∈ d.syscalls,
    c.name ∈ p.syscalls.map (·.name) ↔ d.SyscallSupported consts target c
  order : (p.records.map (·.name)).Sublist d.recordNames
  records : ∀ r ∈ d.records, r.name ∈ p.records.map (·.name) ↔ d.RecordSupported consts r
  syscallsClosed : ∀ c ∈ d.syscalls, c.name ∈ p.syscalls.map (·.name) →
    ∀ r ∈ d.records, d.Reaches c.typeNames r.name → r.name ∈ p.records.map (·.name)
  recordsClosed : ∀ r ∈ d.records, r.name ∈ p.records.map (·.name) →
    ∀ r' ∈ d.records, d.Reaches [r.name] r'.name → r'.name ∈ p.records.map (·.name)

end SyscallTables
