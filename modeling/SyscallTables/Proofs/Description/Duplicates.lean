import Mathlib.Data.List.Basic
import Mathlib.Data.List.Induction
import Mathlib.Data.List.Nodup
import SyscallTables.Proofs.Description.Reading
import SyscallTables.Proofs.Compile.Dependencies

namespace SyscallTables.Description

/-! Redefinitions, described without the checking loop. In a list of definitions, one is
reported when its name is a builtin type's, or when an earlier definition has its name; the
report then cites the nearest such earlier definition. A builtin name is reported every time
and is never what a later definition is compared with. The duplicate check reports in this way
the resources and structs together as types, then the syscalls, and reports nothing exactly
when the names are distinct. -/

/-- What the check says of one definition, given the definitions before it. -/
def redefinitionReport (isBuiltin : String → Bool) (what : String)
    (earlier : List (String × Position)) (item : String × Position) : Option Diagnostic :=
  if isBuiltin item.1 then some ⟨item.2, "'" ++ item.1 ++ "' redefines a builtin type"⟩
  else (earlier.reverse.find? (·.1 == item.1)).map fun prev =>
    ⟨item.2, what ++ " '" ++ item.1 ++ "' redefined, previously at " ++ prev.2.render⟩

/-- What the check says of a list of definitions, each judged against the ones before it. -/
def redefinitionReports (isBuiltin : String → Bool) (what : String)
    (items : List (String × Position)) : List Diagnostic :=
  items.zipIdx.filterMap fun (item, i) => redefinitionReport isBuiltin what (items.take i) item

/-- What the duplicate check says of descriptions: resources and structs together, against the
builtin types and each other, then syscalls against each other. -/
def duplicateReports (d : Description) : List Diagnostic :=
  redefinitionReports (builtinTypes.contains ·) "type"
      (d.resources.map (fun r => (r.name, r.position)) ++
        d.records.map fun s => (s.name, s.position)) ++
    redefinitionReports (fun _ => false) "syscall" (d.syscalls.map fun c => (c.name, c.position))

/-- The reports on definitions the same type check gives in the test of duplicates and
builtin names: a struct named after an earlier resource, then a struct named `ptr`. -/
example :
    redefinitionReports (builtinTypes.contains ·) "type"
        [("fd", ⟨"test.toml", 3, 8⟩), ("fd", ⟨"test.toml", 7, 8⟩), ("ptr", ⟨"test.toml", 11, 8⟩)] =
      [⟨⟨"test.toml", 7, 8⟩, "type 'fd' redefined, previously at test.toml:3:8"⟩,
        ⟨⟨"test.toml", 11, 8⟩, "'ptr' redefines a builtin type"⟩] := by
  decide

section Reports

variable {isBuiltin : String → Bool} {what : String}

theorem redefinitionReports_append_singleton (items : List (String × Position))
    (item : String × Position) :
    redefinitionReports isBuiltin what (items ++ [item]) =
      redefinitionReports isBuiltin what items ++
        (redefinitionReport isBuiltin what items item).toList := by
  -- an earlier definition is judged against a prefix of `items` alone
  have earlier : ∀ x ∈ items.zipIdx,
      redefinitionReport isBuiltin what ((items ++ [item]).take x.2) x.1 =
        redefinitionReport isBuiltin what (items.take x.2) x.1 := by
    rintro ⟨x, i⟩ member
    have within : i < items.length := (List.mem_zipIdx' member).1
    rw [List.take_append_of_le_length (Nat.le_of_lt within)]
  unfold redefinitionReports
  have own : (items ++ [item]).take items.length = items := List.take_left' rfl
  rw [List.zipIdx_append, List.filterMap_append, List.filterMap_congr earlier]
  cases reported : redefinitionReport isBuiltin what items item <;> simp [own, reported]

theorem redefinitionReport_eq_none_iff (earlier : List (String × Position))
    (item : String × Position) :
    redefinitionReport isBuiltin what earlier item = none ↔
      isBuiltin item.1 = false ∧ item.1 ∉ earlier.map (·.1) := by
  unfold redefinitionReport
  cases builtin : isBuiltin item.1 with
  | true => simp
  | false =>
    simp only [Bool.false_eq_true, if_false, Option.map_eq_none_iff, List.find?_eq_none,
      List.mem_reverse, beq_iff_eq, true_and, List.mem_map]
    exact ⟨fun absent ⟨x, member, same⟩ => absent x member same,
      fun absent x member same => absent ⟨x, member, same⟩⟩

/-- Definitions draw no report exactly when none has a builtin name and no two share one. -/
theorem redefinitionReports_eq_nil_iff (items : List (String × Position)) :
    redefinitionReports isBuiltin what items = [] ↔
      (∀ x ∈ items, isBuiltin x.1 = false) ∧ (items.map (·.1)).Nodup := by
  induction items using List.reverseRecOn with
  | nil => simp [redefinitionReports]
  | append_singleton items item ih =>
    have nodup : ((items ++ [item]).map (·.1)).Nodup ↔
        item.1 ∉ items.map (·.1) ∧ (items.map (·.1)).Nodup := by
      rw [List.map_append, List.map_singleton, ← List.concat_eq_append, List.nodup_concat]
    rw [redefinitionReports_append_singleton, List.append_eq_nil_iff, ih,
      Option.toList_eq_nil_iff, redefinitionReport_eq_none_iff, nodup]
    simp only [List.mem_append, List.mem_singleton, or_imp, forall_and, forall_eq]
    constructor
    · rintro ⟨⟨builtins, nodup⟩, builtin, fresh⟩
      exact ⟨⟨builtins, builtin⟩, fresh, nodup⟩
    · rintro ⟨⟨builtins, builtin⟩, fresh, nodup⟩
      exact ⟨⟨builtins, nodup⟩, builtin, fresh⟩

end Reports

/-- Descriptions draw no report from the duplicate check exactly when their names are
distinct. -/
theorem duplicateReports_eq_nil_iff (d : Description) :
    duplicateReports d = [] ↔ d.Distinct := by
  have typeNames : (d.resources.map (fun r => (r.name, r.position)) ++
      d.records.map fun s => (s.name, s.position)).map (·.1) =
        d.resources.map (·.name) ++ d.recordNames := by
    simp [recordNames, Function.comp_def]
  have callNames : (d.syscalls.map fun c => (c.name, c.position)).map (·.1) =
      d.syscalls.map (·.name) := by
    simp [Function.comp_def]
  rw [duplicateReports, List.append_eq_nil_iff, redefinitionReports_eq_nil_iff,
    redefinitionReports_eq_nil_iff, typeNames, callNames]
  -- a name is checked against the builtins as the name of its definition
  have notBuiltin : (∀ x ∈ d.resources.map (fun r => (r.name, r.position)) ++
      d.records.map (fun s => (s.name, s.position)), builtinTypes.contains x.1 = false) ↔
        ∀ n ∈ d.resources.map (·.name) ++ d.recordNames, n ∉ builtinTypes := by
    rw [← typeNames, List.forall_mem_map]
    simp
  rw [notBuiltin]
  constructor
  · rintro ⟨⟨builtins, types⟩, -, syscalls⟩
    exact ⟨types, builtins, syscalls⟩
  · rintro ⟨types, builtins, syscalls⟩
    exact ⟨⟨builtins, types⟩, fun _ _ => rfl, syscalls⟩

namespace Gathered

section Loop

variable {isBuiltin : String → Bool} {what : String}

/-- The definitions seen by the loop, latest first, are the earlier ones with a non-builtin
name, so the latest with a name is the nearest earlier definition of it. -/
theorem lookup_seen {name : String} (notBuiltin : isBuiltin name = false)
    (earlier : List (String × Position)) :
    ((earlier.filter fun x => !isBuiltin x.1).reverse).lookup name =
      (earlier.reverse.find? (·.1 == name)).map (·.2) := by
  rw [← List.filter_reverse]
  induction earlier.reverse with
  | nil => rfl
  | cons x rest ih =>
    obtain ⟨k, q⟩ := x
    by_cases same : k = name
    · subst same
      simp [notBuiltin]
    · have differs : (name == k) = false := beq_eq_false_iff_ne.mpr (Ne.symm same)
      cases builtin : isBuiltin k with
      | true => simp [builtin, same, ih]
      | false => simp [List.lookup_cons, builtin, same, differs, ih]

/-- One turn of the loop appends the report on its definition and, for a non-builtin name,
records the definition as seen. -/
theorem redefinitionStep_seen (g : Gathered) (earlier : List (String × Position))
    (item : String × Position) :
    redefinitionStep isBuiltin what (g, (earlier.filter fun x => !isBuiltin x.1).reverse) item =
      ({ g with diagnostics := g.diagnostics ++
          (redefinitionReport isBuiltin what earlier item).toList },
        ((earlier ++ [item]).filter fun x => !isBuiltin x.1).reverse) := by
  obtain ⟨name, p⟩ := item
  cases builtin : isBuiltin name with
  | true =>
    simp [redefinitionStep, redefinitionReport, builtin, report]
  | false =>
    have seen := lookup_seen builtin earlier
    cases found : earlier.reverse.find? (·.1 == name) with
    | none =>
      rw [found, Option.map_none] at seen
      simp [redefinitionStep, redefinitionReport, builtin, seen, found]
    | some prev =>
      rw [found, Option.map_some] at seen
      simp [redefinitionStep, redefinitionReport, builtin, seen, found, report]

/-- The loop over definitions appends exactly the reports on them. -/
theorem reportRedefinitions_eq (g : Gathered) (items : List (String × Position)) :
    g.reportRedefinitions items isBuiltin what =
      { g with diagnostics := g.diagnostics ++ redefinitionReports isBuiltin what items } := by
  -- the loop's state after a prefix: its reports appended, its non-builtin definitions seen
  have run : ∀ items : List (String × Position),
      items.foldl (redefinitionStep isBuiltin what) (g, []) =
        ({ g with diagnostics := g.diagnostics ++ redefinitionReports isBuiltin what items },
          (items.filter fun x => !isBuiltin x.1).reverse) := by
    intro items
    induction items using List.reverseRecOn with
    | nil => simp [redefinitionReports]
    | append_singleton items item ih =>
      rw [List.foldl_append, ih, List.foldl_cons, List.foldl_nil, redefinitionStep_seen,
        redefinitionReports_append_singleton, List.append_assoc]
  rw [reportRedefinitions, run]

end Loop

/-- The duplicate check appends the reports on the types, then those on the syscalls. -/
theorem checkDuplicates_eq (g : Gathered) :
    g.checkDuplicates =
      { g with diagnostics := g.diagnostics ++ duplicateReports g.description } := by
  simp only [checkDuplicates, reportRedefinitions_eq, duplicateReports, List.append_assoc]

/-- The duplicate check appends exactly the reports on the descriptions' names, changing
nothing else, and appends none exactly when the names are distinct: no resource or struct has a
builtin type's name, no two of them share a name, and no two syscalls do. -/
theorem checkDuplicates_reports_exactly (g : Gathered) :
    g.checkDuplicates =
        { g with diagnostics := g.diagnostics ++ duplicateReports g.description } ∧
      (duplicateReports g.description = [] ↔ g.description.Distinct) :=
  ⟨checkDuplicates_eq g, duplicateReports_eq_nil_iff g.description⟩

end Gathered

end SyscallTables.Description
