import Mathlib.Logic.Relation
import SyscallTables.Program.Compile

namespace SyscallTables.Compile

/-! The walk behind `transitiveMissing`. From a stack of structs, `reachable` visits exactly
the structs that can be reached through the dependencies recorded for each struct, however
they form cycles, and each of them once. Main statement: `mem_reachable_iff`. -/

/-- A struct depends directly on another, as recorded when it was laid out. -/
def DependsOn (refs : List (String × Refs)) (a b : String) : Prop := b ∈ successors refs a

variable {refs : List (String × Refs)}

theorem visited_subset_reachable (stack visited : List String) :
    ∀ n ∈ visited, n ∈ reachable refs stack visited := by
  fun_induction reachable refs stack visited with
  | case1 visited => exact fun _ member => member
  | case2 name stack visited seen ih => exact ih
  | case3 name stack visited fresh ih =>
    intro n member
    exact ih n (List.mem_append_left _ member)

theorem stack_subset_reachable (stack visited : List String) :
    ∀ n ∈ stack, n ∈ reachable refs stack visited := by
  fun_induction reachable refs stack visited with
  | case1 visited => intro n member; simp at member
  | case2 name stack visited seen ih =>
    intro n member
    rcases List.mem_cons.mp member with rfl | later
    · exact visited_subset_reachable stack visited n (by simpa using seen)
    · exact ih n later
  | case3 name stack visited fresh ih =>
    intro n member
    rcases List.mem_cons.mp member with rfl | later
    · exact visited_subset_reachable _ _ n (by simp)
    · exact ih n (List.mem_append_right _ later)

/-- Each struct is visited, and its dependencies pushed, at most once. -/
theorem reachable_nodup (stack visited : List String) (nodup : visited.Nodup) :
    (reachable refs stack visited).Nodup := by
  fun_induction reachable refs stack visited with
  | case1 visited => exact nodup
  | case2 name stack visited seen ih => exact ih nodup
  | case3 name stack visited fresh ih =>
    refine ih (List.nodup_append.mpr ⟨nodup, by simp, ?_⟩)
    intro a old b new same
    rw [List.mem_singleton.mp new] at same
    exact absurd (same ▸ old) (by simpa using fresh)

/-- Nothing is visited outside a set that holds the stack and the visited structs and is
closed under dependence. -/
theorem reachable_within (Q : String → Prop)
    (closed : ∀ a b, Q a → DependsOn refs a b → Q b) (stack visited : List String)
    (fromStack : ∀ n ∈ stack, Q n) (fromVisited : ∀ n ∈ visited, Q n) :
    ∀ n ∈ reachable refs stack visited, Q n := by
  fun_induction reachable refs stack visited with
  | case1 visited => exact fromVisited
  | case2 name stack visited seen ih =>
    exact ih (fun n member => fromStack n (List.mem_cons_of_mem _ member)) fromVisited
  | case3 name stack visited fresh ih =>
    have named : Q name := fromStack name (by simp)
    apply ih
    · intro n member
      rcases List.mem_append.mp member with next | later
      · exact closed name n named next
      · exact fromStack n (List.mem_cons_of_mem _ later)
    · intro n member
      rcases List.mem_append.mp member with old | added
      · exact fromVisited n old
      · rw [List.mem_singleton.mp added]
        exact named

/-- Every dependency of a visited struct is visited too, as long as each dependency of a
struct visited so far is visited or still on the stack. -/
theorem reachable_closed (stack visited : List String)
    (pending : ∀ v ∈ visited, ∀ w, DependsOn refs v w → w ∈ visited ∨ w ∈ stack) :
    ∀ v ∈ reachable refs stack visited, ∀ w, DependsOn refs v w →
      w ∈ reachable refs stack visited := by
  fun_induction reachable refs stack visited with
  | case1 visited =>
    intro v member w depends
    simpa using pending v member w depends
  | case2 name stack visited seen ih =>
    apply ih
    intro v member w depends
    rcases pending v member w depends with old | onStack
    · exact Or.inl old
    · rcases List.mem_cons.mp onStack with rfl | later
      · exact Or.inl (by simpa using seen)
      · exact Or.inr later
  | case3 name stack visited fresh ih =>
    apply ih
    intro v member w depends
    rcases List.mem_append.mp member with old | added
    · rcases pending v old w depends with visitedBefore | onStack
      · exact Or.inl (List.mem_append_left _ visitedBefore)
      · rcases List.mem_cons.mp onStack with rfl | later
        · exact Or.inl (by simp)
        · exact Or.inr (List.mem_append_right _ later)
    · rw [List.mem_singleton.mp added] at depends
      exact Or.inr (List.mem_append_left _ depends)

/-- The walk from a stack visits exactly what the stack reaches through dependence. -/
theorem mem_reachable_iff (stack : List String) (n : String) :
    n ∈ reachable refs stack [] ↔ ∃ s ∈ stack, Relation.ReflTransGen (DependsOn refs) s n := by
  constructor
  · intro member
    refine reachable_within (fun n => ∃ s ∈ stack, Relation.ReflTransGen (DependsOn refs) s n)
      ?_ stack [] ?_ (by simp) n member
    · rintro a b ⟨s, onStack, path⟩ depends
      exact ⟨s, onStack, path.tail depends⟩
    · exact fun s onStack => ⟨s, onStack, Relation.ReflTransGen.refl⟩
  · rintro ⟨s, onStack, path⟩
    have closed : ∀ v ∈ reachable refs stack [], ∀ w, DependsOn refs v w →
        w ∈ reachable refs stack [] := reachable_closed stack [] (by simp)
    induction path with
    | refl => exact stack_subset_reachable stack [] s onStack
    | tail _ depends reached => exact closed _ reached _ depends

end SyscallTables.Compile
