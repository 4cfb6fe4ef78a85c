import Mathlib
import SyscallTables.Generator.Job
import SyscallTables.Proofs.Program.Names

namespace SyscallTables

/-! The consistency check of an OS. Counting, for each symbol, the jobs that leave it
unsupported and comparing with the number of jobs is the rule "the jobs' unsupported sets meet":
the check fails exactly when some symbol is unsupported by every job, there being at least one,
and then it names the least such symbol. So its answer depends on the jobs only through that
intersection, and not on their order. -/

/-- A symbol that every job leaves unsupported, there being at least one job. -/
def UnsupportedEverywhere (jobs : List Job) (s : String) : Prop :=
  jobs ≠ [] ∧ ∀ j ∈ jobs, s ∈ j.unsupported

theorem UnsupportedEverywhere.perm {jobs jobs' : List Job} (perm : jobs.Perm jobs') (s : String) :
    UnsupportedEverywhere jobs s ↔ UnsupportedEverywhere jobs' s := by
  have nonempty : jobs ≠ [] ↔ jobs' ≠ [] := by
    simp only [ne_eq, ← List.length_eq_zero_iff, perm.length_eq]
  simp only [UnsupportedEverywhere, nonempty, perm.mem_iff]

/-- Counting the jobs that leave a symbol unsupported reaches their number exactly when all
of them do. -/
theorem count_unsupported_eq_length_iff (jobs : List Job) (s : String) :
    (jobs.filter (·.unsupported.contains s)).length = jobs.length ↔
      ∀ j ∈ jobs, s ∈ j.unsupported := by
  simp [List.length_filter_eq_length_iff]

/-- A symbol unsupported everywhere is among the symbols the check examines. -/
theorem mem_symbols_of_everywhere {jobs : List Job} {s : String}
    (everywhere : UnsupportedEverywhere jobs s) :
    s ∈ sortedNames (jobs.flatMap (·.unsupported)) := by
  obtain ⟨nonempty, each⟩ := everywhere
  obtain ⟨j, member⟩ := List.exists_mem_of_ne_nil jobs nonempty
  exact mem_sortedNames.mpr (List.mem_flatMap.mpr ⟨j, member, each j member⟩)

/-- In an ascending list, the first name a test accepts is below every name it accepts. -/
theorem find?_le_of_sorted {l : List String} {p : String → Bool} {s : String}
    (sorted : l.Pairwise (· ≤ ·)) (found : l.find? p = some s) : ∀ t ∈ l, p t → s ≤ t := by
  obtain ⟨-, before, after, rfl, skipped⟩ := List.find?_eq_some_iff_append.mp found
  intro t member accepted
  rcases List.mem_append.mp member with early | late
  · exact absurd accepted (by simpa using skipped t early)
  · rcases List.mem_cons.mp late with rfl | later
    · exact String.le_refl t
    · exact List.rel_of_pairwise_cons (List.pairwise_append.mp sorted).2.1 later

/-- The symbol the check reports is the least one unsupported everywhere, and there is none
exactly when no symbol is unsupported everywhere. -/
theorem firstUnsupportedEverywhere_spec (jobs : List Job) :
    (∃ s, IsLeast {t | UnsupportedEverywhere jobs t} s ∧ firstUnsupportedEverywhere jobs = some s) ∨
      ((∀ s, ¬UnsupportedEverywhere jobs s) ∧ firstUnsupportedEverywhere jobs = none) := by
  have accepts : ∀ t, (decide ((jobs.filter (·.unsupported.contains t)).length = jobs.length) =
      true) ↔ ∀ j ∈ jobs, t ∈ j.unsupported := fun t => by
    rw [decide_eq_true_eq, count_unsupported_eq_length_iff]
  unfold firstUnsupportedEverywhere
  cases found : (sortedNames (jobs.flatMap (·.unsupported))).find?
      (fun t => decide ((jobs.filter (·.unsupported.contains t)).length = jobs.length)) with
  | some s =>
    -- the symbol found is unsupported everywhere and, the symbols being sorted, the least
    have examined : s ∈ sortedNames (jobs.flatMap (·.unsupported)) := List.mem_of_find?_eq_some found
    have nonempty : jobs ≠ [] := by
      rintro rfl
      simp [sortedNames] at examined
    have everywhere : UnsupportedEverywhere jobs s :=
      ⟨nonempty, (accepts s).mp (List.find?_eq_some_iff_append.mp found).1⟩
    refine .inl ⟨s, ⟨everywhere, fun t other => ?_⟩, rfl⟩
    exact find?_le_of_sorted (sortedNames_sorted _) found t (mem_symbols_of_everywhere other)
      ((accepts t).mpr other.2)
  | none =>
    refine .inr ⟨fun t everywhere => ?_, rfl⟩
    have rejected := List.find?_eq_none.mp found t (mem_symbols_of_everywhere everywhere)
    exact rejected ((accepts t).mpr everywhere.2)

/-- The check's answer depends on the jobs only through the symbols unsupported everywhere. -/
theorem checkUnsupported_congr (os : String) {jobs jobs' : List Job}
    (same : ∀ s, UnsupportedEverywhere jobs s ↔ UnsupportedEverywhere jobs' s) :
    checkUnsupported os jobs = checkUnsupported os jobs' := by
  have sets : {t | UnsupportedEverywhere jobs t} = {t | UnsupportedEverywhere jobs' t} :=
    Set.ext same
  unfold checkUnsupported
  rcases firstUnsupportedEverywhere_spec jobs with ⟨s, least, found⟩ | ⟨none₁, found⟩ <;>
    rcases firstUnsupportedEverywhere_spec jobs' with ⟨s', least', found'⟩ | ⟨none₂, found'⟩
  · rw [sets] at least
    rw [found, found', String.le_antisymm (least.2 least'.1) (least'.2 least.1)]
  · exact absurd ((same s).mp least.1) (none₂ s)
  · exact absurd ((same s').mpr least'.1) (none₁ s')
  · rw [found, found']

end SyscallTables
