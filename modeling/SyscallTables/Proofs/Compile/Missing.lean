import Mathlib.Data.List.Nodup
import SyscallTables.Proofs.Compile.Reachable
import SyscallTables.Proofs.Compile.Layout

namespace SyscallTables.Compile

open Description Relation

/-! The constants a struct or a syscall misses, as the compiler finds them once every struct is
laid out. The walk over recorded dependencies follows exactly the structs the descriptions use,
so an item misses a constant exactly when it, or a struct it reaches, names a constant the
target lacks. -/

variable {env : Env} {s s' : State}

theorem findRecord_of_mem (distinct : env.description.Distinct) {node : Record}
    (member : node ∈ env.description.records) : findRecord env node.name = some node := by
  have named : node.name ∈ env.description.recordNames := List.mem_map.mpr ⟨node, member, rfl⟩
  obtain ⟨found, hfound⟩ := Option.isSome_iff_exists.mp (findRecord_isSome_iff.mpr named)
  obtain ⟨foundMember, foundName⟩ := findRecord_spec hfound
  rw [hfound]
  exact congrArg some
    (List.inj_on_of_nodup_map distinct.recordNames_nodup foundMember member foundName)

/-- Every struct is laid out. -/
def Settled (env : Env) (s : State) : Prop :=
  ∀ node ∈ env.description.records, ∃ l, s.layouts.lookup node.name = some (some l)

theorem Settled.step (settled : Settled env s) (step : Step env s s') : Settled env s' := by
  intro node member
  obtain ⟨l, laid⟩ := settled node member
  refine ⟨l, ?_⟩
  rw [(step.settled node.name (Or.inl (by simp [laid]))).1, laid]

theorem Settled.recorded (distinct : env.description.Distinct) (hs : Sound env s)
    (settled : Settled env s) {node : Record} (member : node ∈ env.description.records) :
    ∃ refs, s.recordRefs.lookup node.name = some refs ∧
      Refs.Adds env {} refs node.constants node.typeNames := by
  obtain ⟨l, laid⟩ := settled node member
  obtain ⟨found, refs, hfound, hrefs, added⟩ := hs.laidOut node.name l laid
  rw [findRecord_of_mem distinct member, Option.some.injEq] at hfound
  subst hfound
  exact ⟨refs, hrefs, added⟩

theorem dependsOn_iff_uses (distinct : env.description.Distinct) (hs : Sound env s)
    (settled : Settled env s) {a b : String} (record : a ∈ env.description.recordNames) :
    DependsOn s.recordRefs a b ↔ env.description.Uses a b := by
  obtain ⟨node, member, rfl⟩ := List.mem_map.mp record
  obtain ⟨refs, hrefs, added⟩ := settled.recorded distinct hs member
  have recorded : successors s.recordRefs node.name = refs.records := by
    simp [successors, hrefs]
  rw [DependsOn, recorded, added.records]
  constructor
  · rintro (empty | ⟨used, found⟩)
    · simp at empty
    · exact ⟨node, member, rfl, used, findRecord_isSome_iff.mp found⟩
  · rintro ⟨other, otherMember, sameName, used, named⟩
    obtain rfl := List.inj_on_of_nodup_map distinct.recordNames_nodup otherMember member sameName
    exact Or.inr ⟨used, findRecord_isSome_iff.mpr named⟩

/-- From a struct, the recorded dependencies and the uses of the descriptions reach the same
structs. -/
theorem reflTransGen_dependsOn_iff (distinct : env.description.Distinct) (hs : Sound env s)
    (settled : Settled env s) {a b : String} (record : a ∈ env.description.recordNames) :
    ReflTransGen (DependsOn s.recordRefs) a b ↔ ReflTransGen env.description.Uses a b := by
  constructor
  · intro path
    induction path with
    | refl => exact .refl
    | tail _ last ih =>
      have via := reached_mem ih record
      exact ih.tail ((dependsOn_iff_uses distinct hs settled via).mp last)
  · intro path
    induction path with
    | refl => exact .refl
    | tail before last ih =>
      have via := reached_mem before record
      exact ih.tail ((dependsOn_iff_uses distinct hs settled via).mpr last)

theorem mem_foldl_missing (refs : List (String × Refs)) (visited acc : List String) (n : String) :
    n ∈ visited.foldl (fun acc k => (((refs.lookup k).map (·.missing)).getD []).foldl addName acc)
      acc ↔ n ∈ acc ∨ ∃ k ∈ visited, ∃ r, refs.lookup k = some r ∧ n ∈ r.missing := by
  induction visited generalizing acc with
  | nil => simp
  | cons k visited ih =>
    rw [List.foldl_cons, ih, mem_foldl_addName]
    cases found : refs.lookup k with
    | none => simp [found]
    | some r =>
      simp only [found, Option.map_some, Option.getD_some, List.mem_cons, exists_eq_or_imp,
        Option.some.injEq, exists_eq_left']
      constructor
      · rintro ((old | here) | later)
        · exact Or.inl old
        · exact Or.inr (Or.inl here)
        · exact Or.inr (Or.inr later)
      · rintro (old | here | later)
        · exact Or.inl (Or.inl old)
        · exact Or.inl (Or.inr here)
        · exact Or.inr later

theorem mem_transitiveMissing (s : State) (start : List String) (extra : Refs) (n : String) :
    n ∈ transitiveMissing s start extra ↔ n ∈ extra.missing ∨
      ∃ k, (∃ a ∈ extra.records ++ start, ReflTransGen (DependsOn s.recordRefs) a k) ∧
        ∃ r, s.recordRefs.lookup k = some r ∧ n ∈ r.missing := by
  unfold transitiveMissing
  simp only [mem_foldl_missing, mem_reachable_iff]

section Settled

variable (distinct : env.description.Distinct) (hs : Sound env s) (settled : Settled env s)
include distinct hs settled

/-- What a walk from structs finds missing: the constants of the structs it reaches that the
target lacks. -/
theorem mem_transitiveMissing_iff (start : List String) (extra : Refs)
    (records : ∀ a ∈ extra.records ++ start, a ∈ env.description.recordNames) (n : String) :
    n ∈ transitiveMissing s start extra ↔ n ∈ extra.missing ∨
      ∃ node ∈ env.description.records, env.description.Reaches (extra.records ++ start) node.name ∧
        n ∈ node.constants ∧ env.consts.get? n = none := by
  rw [mem_transitiveMissing]
  apply or_congr_right
  constructor
  · rintro ⟨k, ⟨a, start, path⟩, r, hr, missing⟩
    have record := records a start
    have uses := (reflTransGen_dependsOn_iff distinct hs settled record).mp path
    obtain ⟨node, member, rfl⟩ := List.mem_map.mp (reached_mem uses record)
    obtain ⟨refs, hrefs, added⟩ := settled.recorded distinct hs member
    rw [hr, Option.some.injEq] at hrefs
    subst hrefs
    rcases (added.missing n).mp missing with empty | ⟨named, absent⟩
    · simp at empty
    · exact ⟨node, member, ⟨a, start, record, uses⟩, named, absent⟩
  · rintro ⟨node, member, ⟨a, start, record, uses⟩, named, absent⟩
    obtain ⟨refs, hrefs, added⟩ := settled.recorded distinct hs member
    have path := (reflTransGen_dependsOn_iff distinct hs settled record).mpr uses
    exact ⟨node.name, ⟨a, start, path⟩, refs, hrefs, (added.missing n).mpr (Or.inr ⟨named, absent⟩)⟩

theorem transitiveMissing_isEmpty_iff (start : List String) (extra : Refs)
    (records : ∀ a ∈ extra.records ++ start, a ∈ env.description.recordNames) :
    (transitiveMissing s start extra).isEmpty ↔ extra.missing = [] ∧
      env.description.ReachedBound env.consts (extra.records ++ start) := by
  rw [List.isEmpty_iff, List.eq_nil_iff_forall_not_mem, List.eq_nil_iff_forall_not_mem]
  simp only [mem_transitiveMissing_iff distinct hs settled start extra records, not_or]
  constructor
  · intro none
    refine ⟨fun n => (none n).1, fun node member reaches n named => ?_⟩
    by_contra unbound
    exact (none n).2 ⟨node, member, reaches, named, by simpa [ConstTable.contains] using unbound⟩
  · rintro ⟨noneOwn, bound⟩ n
    refine ⟨noneOwn n, ?_⟩
    rintro ⟨node, member, reaches, named, absent⟩
    simpa [ConstTable.contains, absent] using bound node member reaches n named

/-- A struct misses no constant exactly when the target supports it. -/
theorem record_missing_isEmpty_iff {node : Record} (member : node ∈ env.description.records) :
    (transitiveMissing s [node.name] {}).isEmpty ↔
      env.description.RecordSupported env.consts node := by
  have named : node.name ∈ env.description.recordNames := List.mem_map.mpr ⟨node, member, rfl⟩
  have records : ∀ a ∈ ({} : Refs).records ++ [node.name], a ∈ env.description.recordNames := by
    simpa using named
  rw [transitiveMissing_isEmpty_iff distinct hs settled _ _ records]
  simp [RecordSupported]

/-- A syscall whose dependencies were gathered misses no constant exactly when the target
supports it. -/
theorem syscall_missing_isEmpty_iff {c : Description.Syscall} {r : Refs}
    (added : Refs.Adds env {} r (c.constants env.target) c.typeNames) :
    (transitiveMissing s [] r).isEmpty ↔
      env.description.SyscallSupported env.consts env.target c := by
  have records : ∀ a ∈ r.records ++ [], a ∈ env.description.recordNames := by
    intro a member
    rw [List.append_nil, added.records] at member
    rcases member with empty | ⟨_, found⟩
    · simp at empty
    · exact findRecord_isSome_iff.mp found
  rw [transitiveMissing_isEmpty_iff distinct hs settled _ _ records, List.append_nil]
  have sameReach : ∀ b, env.description.Reaches r.records b ↔
      env.description.Reaches c.typeNames b := by
    intro b
    constructor
    · rintro ⟨a, member, record, path⟩
      rcases (added.records a).mp member with empty | ⟨named, _⟩
      · simp at empty
      · exact ⟨a, named, record, path⟩
    · rintro ⟨a, named, record, path⟩
      exact ⟨a, (added.records a).mpr (Or.inr ⟨named, findRecord_isSome_iff.mpr record⟩),
        record, path⟩
  have noneOwn : r.missing = [] ↔ ∀ n ∈ c.constants env.target, env.consts.contains n = true := by
    rw [List.eq_nil_iff_forall_not_mem]
    simp only [added.missing, List.not_mem_nil, false_or, not_and, ConstTable.contains,
      Option.isSome_iff_ne_none]
  simp only [SyscallSupported, ReachedBound, sameReach, noneOwn]

end Settled

end SyscallTables.Compile
