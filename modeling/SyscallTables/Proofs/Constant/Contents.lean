import Mathlib.Data.List.Nodup
import SyscallTables.Constant.Loader

namespace SyscallTables

/-! The contents of a constant table: the value it binds to each name. Every table the loader
builds binds each name at most once; its entries are then exactly its contents, and its view
sorted by name depends on nothing else, whatever order the names were bound in. -/

section Lookup

variable {κ α : Type} [BEq κ] [LawfulBEq κ]

theorem lookup_some_of_mem {l : List (κ × α)} (distinct : (l.map (·.1)).Nodup) {k : κ}
    {v : α} (member : (k, v) ∈ l) : l.lookup k = some v := by
  induction l with
  | nil => cases member
  | cons e l ih =>
    obtain ⟨k', w⟩ := e
    obtain ⟨fresh, rest⟩ := List.nodup_cons.mp distinct
    rcases List.mem_cons.mp member with same | later
    · cases same
      simp
    · have other : k ≠ k' := by
        rintro rfl
        exact fresh (List.mem_map.mpr ⟨(k, v), later, rfl⟩)
      rw [List.lookup_cons, beq_false_of_ne other, ih rest later]

theorem mem_of_lookup_some {l : List (κ × α)} {k : κ} {v : α}
    (found : l.lookup k = some v) : (k, v) ∈ l := by
  obtain ⟨before, after, split, _⟩ := List.lookup_eq_some_iff.mp found
  rw [split]
  simp

theorem lookup_eq_none_of_not_mem {l : List (κ × α)} {k : κ}
    (absent : k ∉ l.map (·.1)) : l.lookup k = none := by
  cases found : l.lookup k with
  | none => rfl
  | some v => exact absurd (List.mem_map.mpr ⟨(k, v), mem_of_lookup_some found, rfl⟩) absent

end Lookup

namespace ConstTable

/-- Each name is bound at most once. -/
def WellFormed (t : ConstTable) : Prop := (t.entries.map (·.1)).Nodup

instance : DecidablePred WellFormed := fun t => inferInstanceAs (Decidable (t.entries.map (·.1)).Nodup)

theorem empty_wellFormed : empty.WellFormed := List.nodup_nil

theorem insert_wellFormed {t : ConstTable} (wf : t.WellFormed) (name : String) (value : UInt64) :
    (t.insert name value).WellFormed := by
  unfold insert
  split_ifs with bound
  · exact wf
  · -- a name not bound yet is no key of the entries
    have fresh : name ∉ t.entries.map (·.1) := fun member => by
      obtain ⟨e, inEntries, rfl⟩ := List.mem_map.mp member
      have found := lookup_some_of_mem wf inEntries
      simp [contains, get?, found] at bound
    show ((t.entries ++ [(name, value)]).map (·.1)).Nodup
    rw [List.map_append]
    exact wf.append (List.nodup_singleton _) (List.disjoint_singleton.mpr fresh)

theorem mem_entries_iff {t : ConstTable} (wf : t.WellFormed) {k : String} {v : UInt64} :
    (k, v) ∈ t.entries ↔ t.get? k = some v :=
  ⟨lookup_some_of_mem wf, mem_of_lookup_some⟩

theorem entries_nodup {t : ConstTable} (wf : t.WellFormed) : t.entries.Nodup :=
  List.Nodup.of_map _ wf

theorem entries_perm {t₁ t₂ : ConstTable} (wf₁ : t₁.WellFormed) (wf₂ : t₂.WellFormed)
    (same : ∀ n, t₁.get? n = t₂.get? n) : t₁.entries.Perm t₂.entries := by
  refine (List.perm_ext_iff_of_nodup (entries_nodup wf₁) (entries_nodup wf₂)).mpr ?_
  rintro ⟨k, v⟩
  rw [mem_entries_iff wf₁, mem_entries_iff wf₂, same]

theorem pairwise_sorted (t : ConstTable) :
    t.sorted.Pairwise fun a b => decide (a.1 ≤ b.1) = true := by
  refine List.pairwise_mergeSort ?_ ?_ t.entries
  · intro a b c first second
    simp only [decide_eq_true_eq] at first second ⊢
    exact String.le_trans first second
  · intro a b
    simp only [Bool.or_eq_true, decide_eq_true_eq]
    exact String.le_total a.1 b.1

/-- The view sorted by name depends only on the contents. -/
theorem sorted_eq_of_contents {t₁ t₂ : ConstTable} (wf₁ : t₁.WellFormed) (wf₂ : t₂.WellFormed)
    (same : ∀ n, t₁.get? n = t₂.get? n) : t₁.sorted = t₂.sorted := by
  have perm : t₁.sorted.Perm t₂.sorted :=
    (List.mergeSort_perm _ _).trans ((entries_perm wf₁ wf₂ same).trans
      (List.mergeSort_perm _ _).symm)
  refine List.Perm.eq_of_pairwise ?_ (pairwise_sorted t₁) (pairwise_sorted t₂) perm
  -- entries sorted alike share their name, hence their value
  rintro ⟨k, v⟩ ⟨k', v'⟩ first second below above
  have key : k = k' := String.le_antisymm (by simpa using below) (by simpa using above)
  subst key
  have bound₁ := (mem_entries_iff wf₁).mp ((List.mergeSort_perm _ _).mem_iff.mp first)
  have bound₂ := (mem_entries_iff wf₂).mp ((List.mergeSort_perm _ _).mem_iff.mp second)
  rw [same, bound₂, Option.some.injEq] at bound₁
  rw [bound₁]

/-- The view sorted by name determines the contents. -/
theorem contents_of_sorted_eq {t₁ t₂ : ConstTable} (wf₁ : t₁.WellFormed) (wf₂ : t₂.WellFormed)
    (same : t₁.sorted = t₂.sorted) (n : String) : t₁.get? n = t₂.get? n := by
  have holds : ∀ v, t₁.get? n = some v ↔ t₂.get? n = some v := by
    intro v
    rw [← mem_entries_iff wf₁, ← mem_entries_iff wf₂, ← (List.mergeSort_perm t₁.entries _).mem_iff,
      ← (List.mergeSort_perm t₂.entries _).mem_iff]
    exact Iff.of_eq (congrArg (fun l => (n, v) ∈ l) same)
  cases found : t₁.get? n with
  | some v => exact ((holds v).mp found).symm
  | none =>
    cases other : t₂.get? n with
    | none => rfl
    | some v => simp [(holds v).mpr other] at found

end ConstTable

namespace ConstFile

theorem addLine_wellFormed (file : String) {state : ConstTable × List Diagnostic}
    (wf : state.1.WellFormed) (numbered : Nat × String) :
    (addLine file state numbered).1.WellFormed := by
  obtain ⟨table, diags⟩ := state
  obtain ⟨index, line⟩ := numbered
  dsimp only [addLine]
  cases readLine line with
  | skip => exact wf
  | malformed _ => exact wf
  | binding name value =>
    dsimp only
    split
    · exact ConstTable.insert_wellFormed wf _ _
    · split
      · exact wf
      · exact wf

theorem read_wellFormed (file source : String) {state : ConstTable × List Diagnostic}
    (wf : state.1.WellFormed) : (read file source state).1.WellFormed := by
  unfold read
  exact List.foldlRecOn (motive := fun state : ConstTable × List Diagnostic => state.1.WellFormed)
    _ _ wf fun _ kept numbered _ => addLine_wellFormed file kept numbered

/-- The loader builds tables that bind each name once. -/
theorem load_wellFormed {t : FileTree} {cwd : Location} {pattern : Path} {arch : String}
    {table : ConstTable} (loaded : load t cwd pattern arch = .ok table) : table.WellFormed := by
  unfold load at loaded
  dsimp only at loaded
  split at loaded
  · cases loaded
  · rename_i files _
    -- every file read, or failing to be read, keeps the table well formed
    have built : (readAll t cwd files).1.WellFormed := by
      unfold readAll
      refine List.foldlRecOn
        (motive := fun state : ConstTable × List Diagnostic => state.1.WellFormed) _ _
        ConstTable.empty_wellFormed fun state kept path _ => ?_
      dsimp only
      cases t.readFile cwd path with
      | ok source => exact read_wellFormed _ _ kept
      | error _ => exact kept
    by_cases clean : (readAll t cwd files).2.isEmpty = true
    · rw [if_pos clean, Except.ok.injEq] at loaded
      rw [← loaded]
      exact built
    · rw [if_neg clean] at loaded
      cases loaded

end ConstFile

end SyscallTables
