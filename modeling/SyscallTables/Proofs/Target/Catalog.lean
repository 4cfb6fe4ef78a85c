import Mathlib.Data.List.Basic
import Mathlib.Data.List.Induction
import Mathlib.Data.List.Nodup
import Mathlib.Data.List.Perm.Basic
import SyscallTables.Target.Catalog
import SyscallTables.Proofs.Program.Names

namespace SyscallTables

/-! Catalogs of targets. A list of targets is accepted exactly when every target passes the
checks of its own fields and no two share an OS and an architecture; otherwise the problems are
listed in target order, each target checked against the targets before it. Narrowing an
accepted catalog to some OSes keeps it accepted. Grouping by OS gives the OS names, sorted and
each once, as keys, and under each the targets of that OS sorted stably by architecture; the
groups together hold every target of the catalog once. -/

namespace Target

/-- The checks a target passes on its own: an OS and an architecture, a pointer size of 4 or 8,
a page size that is a power of two, some pages and some C macros. -/
structure Valid (t : Target) : Prop where
  os : t.os ≠ ""
  arch : t.arch ≠ ""
  ptrSize : t.ptrSize = 4 ∨ t.ptrSize = 8
  pageSize : t.pageSize.isPowerOfTwo
  numPages : t.numPages ≠ 0
  cArch : t.cArch ≠ []

instance (t : Target) : Decidable t.Valid :=
  decidable_of_iff (t.os ≠ "" ∧ t.arch ≠ "" ∧ (t.ptrSize = 4 ∨ t.ptrSize = 8) ∧
      t.pageSize.isPowerOfTwo ∧ t.numPages ≠ 0 ∧ t.cArch ≠ [])
    ⟨fun ⟨os, arch, ptrSize, pageSize, numPages, cArch⟩ =>
      ⟨os, arch, ptrSize, pageSize, numPages, cArch⟩,
     fun ⟨os, arch, ptrSize, pageSize, numPages, cArch⟩ =>
      ⟨os, arch, ptrSize, pageSize, numPages, cArch⟩⟩

theorem isPowerOfTwo_iff (n : Nat) : isPowerOfTwo n = true ↔ n.isPowerOfTwo := by
  rw [← Nat.ne_zero_and_sub_one_eq_zero_iff_isPowerOfTwo]
  simp [isPowerOfTwo]

/-- A target has no problem exactly when it passes its own checks and no target before it has
its OS and architecture. -/
theorem issuesOf_eq_nil_iff (before : List Target) (t : Target) :
    issuesOf before t = [] ↔ t.Valid ∧ ∀ u ∈ before, (u.os, u.arch) ≠ (t.os, t.arch) := by
  have named : (t.os.isEmpty || t.arch.isEmpty) = false ↔ t.os ≠ "" ∧ t.arch ≠ "" := by
    simp
  have pointer : (t.ptrSize != 4 && t.ptrSize != 8) = false ↔ t.ptrSize = 4 ∨ t.ptrSize = 8 := by
    by_cases four : t.ptrSize = 4 <;> simp [four]
  have fresh : before.any (fun u => u.os == t.os && u.arch == t.arch) = false ↔
      ∀ u ∈ before, (u.os, u.arch) ≠ (t.os, t.arch) := by
    simp
  simp only [issuesOf, List.append_eq_nil_iff, ite_eq_right_iff, List.cons_ne_nil, imp_false,
    Bool.not_eq_true, named, pointer, Bool.not_eq_false', isPowerOfTwo_iff, fresh,
    List.isEmpty_iff, and_assoc]
  constructor
  · rintro ⟨os, arch, ptrSize, pageSize, numPages, cArch, apart⟩
    exact ⟨⟨os, arch, ptrSize, pageSize, numPages, cArch⟩, apart⟩
  · rintro ⟨⟨os, arch, ptrSize, pageSize, numPages, cArch⟩, apart⟩
    exact ⟨os, arch, ptrSize, pageSize, numPages, cArch, apart⟩

theorem issues_go_append_singleton (before targets : List Target) (t : Target) :
    issues.go before (targets ++ [t]) = issues.go before targets ++ issuesOf (before ++ targets) t := by
  induction targets generalizing before with
  | nil => simp [issues.go]
  | cons u rest ih => simp [issues.go, ih, List.append_assoc]

/-- The problems of targets come in target order, each target checked against the targets
before it. -/
theorem issues_append_singleton (targets : List Target) (t : Target) :
    issues (targets ++ [t]) = issues targets ++ issuesOf targets t := by
  simp [issues, issues_go_append_singleton]

/-- Targets have no problem exactly when each passes its own checks and no two share an OS and
an architecture. -/
theorem issues_eq_nil_iff (targets : List Target) :
    issues targets = [] ↔
      (∀ t ∈ targets, t.Valid) ∧ (targets.map fun t => (t.os, t.arch)).Nodup := by
  induction targets using List.reverseRecOn with
  | nil => simp [issues, issues.go]
  | append_singleton targets t ih =>
    have nodup : ((targets ++ [t]).map fun t => (t.os, t.arch)).Nodup ↔
        (t.os, t.arch) ∉ targets.map (fun t => (t.os, t.arch)) ∧
          (targets.map fun t => (t.os, t.arch)).Nodup := by
      rw [List.map_append, List.map_singleton, ← List.concat_eq_append, List.nodup_concat]
    rw [issues_append_singleton, List.append_eq_nil_iff, ih, issuesOf_eq_nil_iff, nodup]
    simp only [List.mem_append, List.mem_singleton, or_imp, forall_and, forall_eq, List.mem_map,
      not_exists, not_and]
    constructor
    · rintro ⟨⟨valid, nodup⟩, own, apart⟩
      exact ⟨⟨valid, own⟩, apart, nodup⟩
    · rintro ⟨⟨valid, own⟩, apart, nodup⟩
      exact ⟨⟨valid, nodup⟩, own, apart⟩

end Target

namespace Catalog

/-- A catalog is had from targets exactly when they pass the checks, and it holds them. -/
theorem ofTargets_eq_ok_iff (targets : List Target) (c : Catalog) :
    ofTargets targets = .ok c ↔
      (∀ t ∈ targets, t.Valid) ∧ (targets.map fun t => (t.os, t.arch)).Nodup ∧ c = ⟨targets⟩ := by
  rw [← and_assoc, ← Target.issues_eq_nil_iff]
  unfold ofTargets
  split
  · rename_i clean
    simp [clean, eq_comm]
  · rename_i problems refused
    constructor
    · intro refusal
      cases refusal
    · rintro ⟨clean, -⟩
      exact absurd clean refused

/-- Targets that fail the checks are refused with every problem, joined by `; `. -/
theorem ofTargets_eq_error (targets : List Target)
    (refused : ¬ ((∀ t ∈ targets, t.Valid) ∧ (targets.map fun t => (t.os, t.arch)).Nodup)) :
    ofTargets targets = .error (.validation ("; ".intercalate (Target.issues targets))) := by
  rw [← Target.issues_eq_nil_iff] at refused
  unfold ofTargets
  split
  · rename_i clean
    exact absurd clean refused
  · rfl

theorem retainOs_nil (c : Catalog) : c.retainOs [] = c := rfl

theorem retainOs_sublist (c : Catalog) (os : List String) :
    (c.retainOs os).targets.Sublist c.targets := by
  unfold retainOs
  split
  · exact List.Sublist.refl _
  · exact List.filter_sublist

/-- Narrowing an accepted catalog to some OSes gives a catalog that is accepted again. -/
theorem ofTargets_retainOs {targets : List Target} {c : Catalog}
    (accepted : ofTargets targets = .ok c) (os : List String) :
    ofTargets (c.retainOs os).targets = .ok (c.retainOs os) := by
  obtain ⟨valid, nodup, rfl⟩ := (ofTargets_eq_ok_iff targets c).mp accepted
  have kept := retainOs_sublist ⟨targets⟩ os
  refine (ofTargets_eq_ok_iff _ _).mpr ⟨fun t member => valid t (kept.subset member),
    nodup.sublist (kept.map _), rfl⟩

theorem osNames_eq (c : Catalog) : c.osNames = sortedNames (c.targets.map (·.os)) := rfl

theorem mem_osNames {c : Catalog} {os : String} : os ∈ c.osNames ↔ ∃ t ∈ c.targets, t.os = os := by
  simp [osNames_eq, mem_sortedNames]

theorem byOs_keys (c : Catalog) : c.byOs.map (·.1) = c.osNames := by
  simp [byOs, Function.comp_def]

/-- Each group holds the targets of its OS, sorted stably by architecture. -/
theorem byOs_stableSorted (c : Catalog) :
    ∀ g ∈ c.byOs, StableSorted Target.arch (c.targets.filter fun t => t.os = g.1) g.2 := by
  intro g member
  obtain ⟨os, -, rfl⟩ := List.mem_map.mp member
  exact mergeSort_stableSorted Target.arch _

/-- Taking, for keys given once, the items of each key in turn lists every item whose key is
among them once. -/
theorem flatMap_filter_perm {α β : Type} [DecidableEq β] (key : α → β) (keys : List β)
    (l : List α) (nodup : keys.Nodup) (covered : ∀ x ∈ l, key x ∈ keys) :
    (keys.flatMap fun k => l.filter fun x => key x = k).Perm l := by
  induction keys generalizing l with
  | nil =>
    cases l with
    | nil => simp
    | cons x _ => exact absurd (covered x (by simp)) (by simp)
  | cons k rest ih =>
    obtain ⟨fresh, nodup⟩ := List.nodup_cons.mp nodup
    -- the later keys see only the items of other keys
    have later : (rest.flatMap fun k' => l.filter fun x => key x = k') =
        rest.flatMap fun k' => (l.filter fun x => key x ≠ k).filter fun x => key x = k' := by
      refine List.flatMap_congr fun k' member => ?_
      rw [List.filter_filter]
      refine List.filter_congr fun x _ => ?_
      by_cases named : key x = k'
      · have differs : k' ≠ k := fun same => fresh (same ▸ member)
        simp [named, differs]
      · simp [named]
    have rest_covered : ∀ x ∈ l.filter (fun x => key x ≠ k), key x ∈ rest := by
      intro x member
      obtain ⟨inL, other⟩ := List.mem_filter.mp member
      rcases List.mem_cons.mp (covered x inL) with same | inRest
      · simp [same] at other
      · exact inRest
    rw [List.flatMap_cons, later]
    refine ((ih _ nodup rest_covered).append_left _).trans ?_
    simpa using List.filter_append_perm (fun x => decide (key x = k)) l

/-- The groups together hold every target of the catalog once. -/
theorem byOs_perm (c : Catalog) : (c.byOs.flatMap (·.2)).Perm c.targets := by
  have grouped : (c.byOs.flatMap (·.2)).Perm
      (c.osNames.flatMap fun os => c.targets.filter fun t => t.os = os) := by
    rw [byOs, List.flatMap_map]
    exact List.Perm.flatMap_left _ fun os _ => List.mergeSort_perm _ _
  refine grouped.trans (flatMap_filter_perm Target.os _ _ ?_ fun t member => ?_)
  · exact (sortedNames_ascending _).imp String.ne_of_lt
  · exact mem_osNames.mpr ⟨t, member, rfl⟩

end Catalog

/-- A catalog keeps its invariant and its grouping is a partition. Targets are accepted exactly
when each passes its own checks and no two share an OS and an architecture, and are otherwise
refused with all their problems, target by target in order; narrowing an accepted catalog keeps
it accepted, and narrowing to no OS keeps everything. The groups by OS have as keys the OS names,
strictly ascending and exactly those of the targets; each holds the targets of its OS, sorted
stably by architecture; together they hold every target once. -/
theorem catalog_accepts_checked_and_partitions_by_os :
    (∀ (targets : List Target) (c : Catalog), Catalog.ofTargets targets = .ok c ↔
        (∀ t ∈ targets, t.Valid) ∧ (targets.map fun t => (t.os, t.arch)).Nodup ∧
          c = ⟨targets⟩) ∧
      (∀ targets : List Target,
        ¬ ((∀ t ∈ targets, t.Valid) ∧ (targets.map fun t => (t.os, t.arch)).Nodup) →
          Catalog.ofTargets targets =
            .error (.validation ("; ".intercalate (Target.issues targets)))) ∧
      (∀ (targets : List Target) (t : Target),
        Target.issues (targets ++ [t]) = Target.issues targets ++ Target.issuesOf targets t) ∧
      (∀ (targets : List Target) (c : Catalog) (os : List String),
        Catalog.ofTargets targets = .ok c →
          Catalog.ofTargets (c.retainOs os).targets = .ok (c.retainOs os)) ∧
      (∀ c : Catalog, c.retainOs [] = c) ∧
      ∀ c : Catalog, c.byOs.map (·.1) = c.osNames ∧ c.osNames.Pairwise (· < ·) ∧
        (∀ os, os ∈ c.osNames ↔ ∃ t ∈ c.targets, t.os = os) ∧
        (∀ g ∈ c.byOs, StableSorted Target.arch (c.targets.filter fun t => t.os = g.1) g.2) ∧
        (c.byOs.flatMap (·.2)).Perm c.targets :=
  ⟨Catalog.ofTargets_eq_ok_iff, Catalog.ofTargets_eq_error, Target.issues_append_singleton,
    fun _ _ os accepted => Catalog.ofTargets_retainOs accepted os, Catalog.retainOs_nil,
    fun c => ⟨c.byOs_keys, sortedNames_ascending _, fun _ => Catalog.mem_osNames,
      c.byOs_stableSorted, c.byOs_perm⟩⟩

/-- The built-in targets are accepted and, narrowed to Linux, accepted again; two copies of
linux/amd64 are refused as a duplicate target. -/
theorem builtin_narrowed_and_duplicate_refused :
    Catalog.ofTargets Target.builtin = .ok Catalog.builtin ∧
      Catalog.ofTargets (Catalog.builtin.retainOs ["linux"]).targets =
        .ok (Catalog.builtin.retainOs ["linux"]) ∧
      ¬ ((∀ t ∈ [Target.make "linux" "amd64" 8 ["__x86_64__"],
          Target.make "linux" "amd64" 8 ["__x86_64__"]], t.Valid) ∧
        ([Target.make "linux" "amd64" 8 ["__x86_64__"],
          Target.make "linux" "amd64" 8 ["__x86_64__"]].map fun t => (t.os, t.arch)).Nodup) ∧
      Catalog.ofTargets [Target.make "linux" "amd64" 8 ["__x86_64__"],
          Target.make "linux" "amd64" 8 ["__x86_64__"]] =
        .error (.validation "duplicate target linux/amd64") := by
  have accepted : Catalog.ofTargets Target.builtin = .ok Catalog.builtin := by rfl
  have refused : ¬ ((∀ t ∈ [Target.make "linux" "amd64" 8 ["__x86_64__"],
      Target.make "linux" "amd64" 8 ["__x86_64__"]], t.Valid) ∧
        ([Target.make "linux" "amd64" 8 ["__x86_64__"],
          Target.make "linux" "amd64" 8 ["__x86_64__"]].map fun t => (t.os, t.arch)).Nodup) := by
    decide
  have listed : "; ".intercalate (Target.issues [Target.make "linux" "amd64" 8 ["__x86_64__"],
      Target.make "linux" "amd64" 8 ["__x86_64__"]]) = "duplicate target linux/amd64" := by
    decide
  obtain ⟨-, rejects, -, narrows, -⟩ := catalog_accepts_checked_and_partitions_by_os
  exact ⟨accepted, narrows _ _ ["linux"] accepted, refused, listed ▸ rejects _ refused⟩

end SyscallTables
