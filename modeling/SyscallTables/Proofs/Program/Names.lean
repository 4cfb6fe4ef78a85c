import SyscallTables.Program.Basic

namespace SyscallTables

/-! Sorted name lists. `sortedNames` holds exactly the names it is given, in strictly ascending
order: sorting keeps every name and dropping repeats keeps the first of each, so the order
survives and no name is left twice. Merge sort by a name is stable: items of one name keep the
order they had. -/

/-- Dropping repeats keeps the first of each, in order. -/
theorem eraseDups_sublist {α : Type} [BEq α] (l : List α) : l.eraseDups.Sublist l := by
  match l with
  | [] => simp
  | a :: rest =>
    have shorter : (rest.filter fun b => !b == a).length < rest.length + 1 :=
      Nat.lt_succ_of_le (List.length_filter_le _ rest)
    rw [List.eraseDups_cons]
    exact .cons_cons a ((eraseDups_sublist _).trans List.filter_sublist)
termination_by l.length

/-- Dropping repeats leaves no two equal. -/
theorem nodup_eraseDups {α : Type} [BEq α] [LawfulBEq α] (l : List α) : l.eraseDups.Nodup := by
  match l with
  | [] => simp
  | a :: rest =>
    have shorter : (rest.filter fun b => !b == a).length < rest.length + 1 :=
      Nat.lt_succ_of_le (List.length_filter_le _ rest)
    rw [List.eraseDups_cons]
    refine List.nodup_cons.mpr ⟨fun member => ?_, nodup_eraseDups _⟩
    -- what is left after the first item holds no copy of it
    have later := List.mem_eraseDups.mp member
    simp at later
termination_by l.length

theorem decide_le_trans (a b c : String) (ab : decide (a ≤ b) = true)
    (bc : decide (b ≤ c) = true) : decide (a ≤ c) = true := by
  simp only [decide_eq_true_eq] at ab bc ⊢
  exact String.le_trans ab bc

theorem decide_le_total (a b : String) : (decide (a ≤ b) || decide (b ≤ a)) = true := by
  simpa using String.le_total a b

theorem mem_sortedNames {names : List String} {n : String} : n ∈ sortedNames names ↔ n ∈ names := by
  simp [sortedNames, List.mem_eraseDups, (List.mergeSort_perm _ _).mem_iff]

theorem sortedNames_sorted (names : List String) : (sortedNames names).Pairwise (· ≤ ·) := by
  have sorted := List.pairwise_mergeSort decide_le_trans decide_le_total names
  exact (sorted.imp of_decide_eq_true).sublist (eraseDups_sublist _)

/-- Sorted names stand in strictly ascending order. -/
theorem sortedNames_ascending (names : List String) : (sortedNames names).Pairwise (· < ·) := by
  refine ((sortedNames_sorted names).and (nodup_eraseDups _)).imp fun ⟨le, differ⟩ => ?_
  exact String.not_le.mp fun ge => differ (String.le_antisymm le ge)

/-- `sorted` holds the items of `l` in ascending order of their names, items of one name in the
order `l` has them. -/
structure StableSorted {α : Type} (name : α → String) (l sorted : List α) : Prop where
  perm : sorted.Perm l
  ascending : sorted.Pairwise fun a b => name a ≤ name b
  stable : ∀ n, sorted.filter (fun x => name x = n) = l.filter (fun x => name x = n)

/-- Merge sort by a name is a stable sort. -/
theorem mergeSort_stableSorted {α : Type} (name : α → String) (l : List α) :
    StableSorted name l (l.mergeSort fun a b => decide (name a ≤ name b)) where
  perm := List.mergeSort_perm _ _
  ascending :=
    (List.pairwise_mergeSort (fun a b c => decide_le_trans (name a) (name b) (name c))
      (fun a b => decide_le_total (name a) (name b)) l).imp of_decide_eq_true
  stable n := by
    -- the items of one name are in order already, so the sort keeps them as a sublist
    have ordered : (l.filter fun x => name x = n).Pairwise fun a b => decide (name a ≤ name b) := by
      refine List.Pairwise.imp_of_mem (fun {a b} inA inB _ => ?_)
        (List.pairwise_of_forall fun _ _ => trivial)
      have named : name a = n ∧ name b = n :=
        ⟨by simpa using (List.mem_filter.mp inA).2, by simpa using (List.mem_filter.mp inB).2⟩
      simp [named.1, named.2]
    have kept := List.sublist_mergeSort (fun a b c => decide_le_trans (name a) (name b) (name c))
      (fun a b => decide_le_total (name a) (name b)) ordered List.filter_sublist
    have within : (l.filter fun x => name x = n).Sublist
        ((l.mergeSort fun a b => decide (name a ≤ name b)).filter fun x => name x = n) := by
      simpa [List.filter_filter] using kept.filter (fun x => decide (name x = n))
    have sameLength := ((List.mergeSort_perm l fun a b => decide (name a ≤ name b)).filter
      fun x => decide (name x = n)).length_eq
    exact (within.eq_of_length sameLength.symm).symm

end SyscallTables
