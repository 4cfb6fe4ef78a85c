import Mathlib.Data.List.Nodup
import SyscallTables.Generator.Run
import SyscallTables.Proofs.Files.Components
import SyscallTables.Proofs.Target.Catalog

namespace SyscallTables

/-! Where the targets of an OS write. The data definition of a target goes to
`<os dir>/gen/<arch>.json`, and a file is written where a lookup of its path leads. An
architecture without a separator joins the path as one last part, so two targets of an OS group
with such architectures write different files: the catalog checks keep their architectures
apart. Nothing checks that an architecture has no separator, though, and `./amd64` is accepted
next to `amd64`: both lead to the same file. -/

namespace Path

/-- Joining a name without a separator adds it as the last part. -/
theorem parts_join_plain (p : Path) {n : String} (plain : '/' ∉ n.toList) (named : n ≠ "") :
    (p.join ⟨n⟩).parts = p.parts ++ [n] := by
  have kept : n.isEmpty = false := by simpa using named
  unfold join
  simp only [hasRoot_eq_false_of_plain plain, Bool.false_eq_true, if_false]
  split_ifs with empty ends
  · -- nothing on the left: the name alone
    have blank : p.text = "" := by simpa using empty
    simp [parts_eq, blank, splitOn_plain plain, kept]
  · -- the left side already ends with a separator
    rw [String.endsWith_eq_endsWith_toSlice, String.Slice.endsWith_string_iff,
      String.copy_toSlice] at ends
    obtain ⟨front, hfront⟩ := ends
    have whole : (p.text ++ n).toList = front ++ '/' :: n.toList := by
      rw [String.toList_append, ← hfront]
      simp
    rw [parts_eq, parts_eq, whole, ← hfront]
    simp [splitOn_append_sep, splitOn_plain plain, kept]
  · have whole : (p.text ++ "/" ++ n).toList = p.text.toList ++ '/' :: n.toList := by
      simp
    rw [parts_eq, parts_eq]
    simp only [whole, splitOn_append_sep, splitOn_plain plain]
    simp [kept]

end Path

namespace FileTree

/-- A lookup ends at the last part of the path. -/
theorem lookup_last {t : FileTree} {cwd : Location} {p : Path} {l : Lookup} {n : String}
    (found : t.lookup cwd p = .ok l) (last : p.parts.getLast? = some n) :
    l.last = LastPart.ofPart n := by
  unfold lookup at found
  simp only [last] at found
  cases walked : t.walk (if p.hasRoot then [] else cwd) p.parts.dropLast with
  | error e => simp [walked] at found
  | ok dir =>
    simp only [walked] at found
    cases found
    rfl

end FileTree

theorem ofPart_json (arch : String) :
    FileTree.LastPart.ofPart (arch ++ ".json") = .name (arch ++ ".json") := by
  have suffix : ".json".length = 5 := rfl
  have long : 5 ≤ (arch ++ ".json").length := by
    rw [String.length_append]
    omega
  have notCurrent : arch ++ ".json" ≠ "." := fun same => absurd (same ▸ long) (by decide)
  have notUp : arch ++ ".json" ≠ ".." := fun same => absurd (same ▸ long) (by decide)
  simp [FileTree.LastPart.ofPart, notCurrent, notUp]

/-- The data definition of an architecture without a separator is the file of that name in the
directory its path leads to. -/
theorem GenConfig.lookup_dataDefinitionPath (c : GenConfig) (os : String) {arch : String}
    (plain : '/' ∉ arch.toList) {t : FileTree} {cwd : Location} {l : FileTree.Lookup}
    (found : t.lookup cwd (c.dataDefinitionPath os arch) = .ok l) :
    l.target = l.dir ++ [arch ++ ".json"] := by
  have plainFile : '/' ∉ (arch ++ ".json").toList := by
    simp only [String.toList_append, List.mem_append, not_or]
    exact ⟨plain, by decide⟩
  have named : arch ++ ".json" ≠ "" := fun blank => by
    simpa using congrArg String.length blank
  have last : (c.dataDefinitionPath os arch).parts.getLast? = some (arch ++ ".json") := by
    rw [GenConfig.dataDefinitionPath, Path.parts_join_plain _ plainFile named]
    simp
  rw [FileTree.Lookup.target, FileTree.lookup_last found last, ofPart_json]
  rfl

/-- The catalogs a run may be given: one of checked targets, the built-in one, or one of these
narrowed to some OSes. -/
inductive Catalog.Accepted : Catalog → Prop
  | checked {targets : List Target} {c : Catalog} : Catalog.ofTargets targets = .ok c → Accepted c
  | builtin : Accepted Catalog.builtin
  | narrowed {c : Catalog} (os : List String) : Accepted c → Accepted (c.retainOs os)

/-- An accepted catalog names each OS and architecture once. -/
theorem Catalog.Accepted.nodup {c : Catalog} (accepted : c.Accepted) :
    (c.targets.map fun t => (t.os, t.arch)).Nodup := by
  induction accepted with
  | checked built =>
    obtain ⟨-, nodup, rfl⟩ := (Catalog.ofTargets_eq_ok_iff _ _).mp built
    exact nodup
  | builtin => decide
  | narrowed os _ ih => exact ih.sublist ((Catalog.retainOs_sublist _ os).map _)

/-- Two targets of an accepted catalog with the same OS and architectures without a separator
write their data definitions to different files. -/
theorem accepted_targets_write_distinct_files {c : Catalog} (accepted : c.Accepted)
    (config : GenConfig) {i j : Nat} (hi : i < c.targets.length) (hj : j < c.targets.length)
    (distinct : i ≠ j) (sameOs : c.targets[i].os = c.targets[j].os)
    (plain : '/' ∉ c.targets[i].arch.toList ∧ '/' ∉ c.targets[j].arch.toList)
    {t : FileTree} {cwd : Location} {l₁ l₂ : FileTree.Lookup}
    (found₁ : t.lookup cwd (config.dataDefinitionPath c.targets[i].os c.targets[i].arch) = .ok l₁)
    (found₂ : t.lookup cwd (config.dataDefinitionPath c.targets[j].os c.targets[j].arch) = .ok l₂) :
    l₁.target ≠ l₂.target := by
  -- the catalog keeps the two architectures apart
  have differ : c.targets[i].arch ≠ c.targets[j].arch := by
    intro same
    have hi₂ : i < (c.targets.map fun t => (t.os, t.arch)).length := by simpa using hi
    have hj₂ : j < (c.targets.map fun t => (t.os, t.arch)).length := by simpa using hj
    have keys : (c.targets.map fun t => (t.os, t.arch))[i] =
        (c.targets.map fun t => (t.os, t.arch))[j] := by
      simp [sameOs, same]
    exact distinct ((List.Nodup.getElem_inj_iff accepted.nodup).mp keys)
  rw [config.lookup_dataDefinitionPath _ plain.1 found₁,
    config.lookup_dataDefinitionPath _ plain.2 found₂]
  intro same
  have lasts := congrArg List.getLast? same
  simp only [List.getLast?_append, List.getLast?_singleton, Option.some_or,
    Option.some.injEq, String.append_left_inj] at lasts
  exact differ lasts

theorem eq_ok_of_toOption {e : Except ε α} {a : α} (found : e.toOption = some a) : e = .ok a := by
  cases e <;> simp_all [Except.toOption]

/-- The directories a data definition of linux is written in, and nothing else. -/
def linuxGenTree : FileTree :=
  ⟨[(["sys"], .directory), (["sys", "linux"], .directory), (["sys", "linux", "gen"], .directory)]⟩

/-- The first two built-in targets, linux/amd64 and linux/386, write different files. -/
theorem builtin_targets_write_distinct_files :
    Catalog.builtin.Accepted ∧
      (linuxGenTree.lookup [] (({} : GenConfig).dataDefinitionPath "linux" "amd64")).toOption =
        some ⟨["sys", "linux", "gen"], .name "amd64.json", false⟩ ∧
      (linuxGenTree.lookup [] (({} : GenConfig).dataDefinitionPath "linux" "386")).toOption =
        some ⟨["sys", "linux", "gen"], .name "386.json", false⟩ ∧
      FileTree.Lookup.target ⟨["sys", "linux", "gen"], .name "amd64.json", false⟩ ≠
        FileTree.Lookup.target ⟨["sys", "linux", "gen"], .name "386.json", false⟩ := by
  have found₁ : (linuxGenTree.lookup [] (({} : GenConfig).dataDefinitionPath "linux" "amd64")).toOption =
      some ⟨["sys", "linux", "gen"], .name "amd64.json", false⟩ := by decide +kernel
  have found₂ : (linuxGenTree.lookup [] (({} : GenConfig).dataDefinitionPath "linux" "386")).toOption =
      some ⟨["sys", "linux", "gen"], .name "386.json", false⟩ := by decide +kernel
  exact ⟨.builtin, found₁, found₂, accepted_targets_write_distinct_files .builtin {}
    (i := 0) (j := 1) (by decide) (by decide) (by decide) rfl ⟨by decide, by decide⟩
    (eq_ok_of_toOption found₁) (eq_ok_of_toOption found₂)⟩

/-- An accepted catalog whose two linux targets, amd64 and ./amd64, write the same file. -/
theorem dotted_arch_shares_data_definition :
    Catalog.ofTargets [Target.make "linux" "amd64" 8 ["__x86_64__"],
        Target.make "linux" "./amd64" 8 ["__x86_64__"]] =
      .ok ⟨[Target.make "linux" "amd64" 8 ["__x86_64__"],
        Target.make "linux" "./amd64" 8 ["__x86_64__"]]⟩ ∧
      (linuxGenTree.lookup [] (({} : GenConfig).dataDefinitionPath "linux" "amd64")).toOption =
        some ⟨["sys", "linux", "gen"], .name "amd64.json", false⟩ ∧
      (linuxGenTree.lookup [] (({} : GenConfig).dataDefinitionPath "linux" "./amd64")).toOption =
        some ⟨["sys", "linux", "gen"], .name "amd64.json", false⟩ := by
  have clean : Target.issues [Target.make "linux" "amd64" 8 ["__x86_64__"],
      Target.make "linux" "./amd64" 8 ["__x86_64__"]] = [] := by decide +kernel
  refine ⟨?_, by decide +kernel, by decide +kernel⟩
  unfold Catalog.ofTargets
  rw [clean]

end SyscallTables
