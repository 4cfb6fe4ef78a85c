import Mathlib.Data.List.Basic
import SyscallTables.Files.Path

namespace SyscallTables

/-! The components of a path as its end is read. Taking parts off the end of the text, as the
file name and the parent do, finds the same last part as splitting the whole text at its
separators: the root and a leading `.` hold no part, and empty and `.` parts mean nothing.
Main statement: `fileName_eq_finalName`. -/

namespace Path

theorem parts_eq (p : Path) :
    p.parts = ((p.text.toList.splitOn '/').map String.ofList).filter fun s => !s.isEmpty := rfl

theorem splitOn_plain {cs : List Char} (plain : '/' ∉ cs) : cs.splitOn '/' = [cs] := by
  rw [List.splitOn_eq_splitOnP]
  refine List.splitOnP_eq_singleton fun x member => ?_
  have other : x ≠ '/' := fun same => plain (same ▸ member)
  simpa using other

theorem splitOn_append_sep (xs ys : List Char) :
    (xs ++ '/' :: ys).splitOn '/' = xs.splitOn '/' ++ ys.splitOn '/' := by
  simp only [List.splitOn_eq_splitOnP]
  exact List.splitOnP_append_cons xs ys (by decide)

theorem hasRoot_eq_false_of_plain {name : String} (plain : '/' ∉ name.toList) :
    hasRoot ⟨name⟩ = false := by
  rw [hasRoot, String.startsWith_string_eq_false_iff]
  intro rooted
  exact plain (rooted.subset (by simp))

/-- Read from the end, a text without separators is kept whole by the search for one. -/
theorem reverse_kept_of_plain {cs : List Char} (plain : '/' ∉ cs) :
    ∀ c ∈ cs.reverse, (c != '/') = true := by
  intro c member
  have other : c ≠ '/' := fun same => plain (same ▸ List.mem_reverse.mp member)
  simpa using other

theorem splitLast_of_plain {body : List Char} (plain : '/' ∉ body) : splitLast body = ([], body) := by
  have kept := reverse_kept_of_plain plain
  have taken := @List.takeWhile_append_of_pos _ (· != '/') body.reverse [] kept
  have dropped := @List.dropWhile_append_of_pos _ (· != '/') body.reverse [] kept
  simp only [List.append_nil, List.takeWhile_nil, List.dropWhile_nil] at taken dropped
  simp [splitLast, taken, dropped]

theorem splitLast_append {before last : List Char} (plain : '/' ∉ last) :
    splitLast (before ++ '/' :: last) = (before, last) := by
  have kept := reverse_kept_of_plain plain
  simp [splitLast, List.takeWhile_append_of_pos kept, List.dropWhile_append_of_pos kept]

/-- A text either holds no separator or splits at its last one. -/
theorem plain_or_last_sep (body : List Char) :
    '/' ∉ body ∨ ∃ before last, '/' ∉ last ∧ body = before ++ '/' :: last := by
  induction body with
  | nil => exact .inl (by simp)
  | cons c rest ih =>
    rcases ih with plain | ⟨before, last, plain, rfl⟩
    · by_cases sep : c = '/'
      · exact .inr ⟨[], rest, plain, by simp [sep]⟩
      · exact .inl (by simp [plain, Ne.symm sep])
    · exact .inr ⟨c :: before, last, plain, rfl⟩

@[simp] theorem part_nil : part [] = none := rfl

@[simp] theorem part_dot : part ['.'] = none := rfl

/-- Taking parts off the end finds the last part of the body that means something. -/
theorem lastMeaningful_fst (head : Nat) : ∀ fuel (cs : List Char), (cs.drop head).length < fuel →
    (lastMeaningful head fuel cs).1 = (((cs.drop head).splitOn '/').filterMap part).getLast? := by
  intro fuel
  induction fuel with
  | zero => exact fun _ short => absurd short (Nat.not_lt_zero _)
  | succ fuel ih =>
    intro cs short
    unfold lastMeaningful
    split
    · rename_i within
      rw [List.drop_eq_nil_of_le within]
      rfl
    · rename_i beyond
      have front : (cs.take head).length = head := List.length_take_of_le (by omega)
      dsimp only
      rcases plain_or_last_sep (cs.drop head) with plain | ⟨before, last, plain, split⟩
      · rw [splitLast_of_plain plain, splitOn_plain plain]
        cases named : part (cs.drop head) with
        | some c => simp [named]
        | none =>
          dsimp only
          have long : 0 < (cs.drop head).length := by
            rw [List.length_drop]
            omega
          rw [ih _ (by simp; omega)]
          simp [named]
      · rw [split, splitLast_append plain, splitOn_append_sep, splitOn_plain plain]
        rw [split, List.length_append, List.length_cons] at short
        cases named : part last with
        | some c => simp [named]
        | none =>
          dsimp only
          rw [ih _ (by simp [List.drop_left' front]; omega)]
          simp [List.drop_left' front, named]

theorem part_eq (cs : List Char) :
    part cs = if (String.ofList cs).isEmpty ∨ String.ofList cs = "." then none
      else some (if String.ofList cs = ".." then .up else .normal (String.ofList cs)) := by
  unfold part
  split
  · simp
  · simp
  · simp
  · rename_i notNil notDot notDots
    have spelled : ∀ t : String, String.ofList cs = t → cs = t.toList := fun t same => by
      rw [← same, String.toList_ofList]
    have filled : (String.ofList cs).isEmpty = false := by simpa using notNil
    have notDot' : String.ofList cs ≠ "." := fun same => notDot (by simpa using spelled _ same)
    have notDots' : String.ofList cs ≠ ".." := fun same => notDots (by simpa using spelled _ same)
    simp [filled, notDot', notDots']

/-- The parts that mean something, each a step up or a name. -/
theorem filterMap_part (L : List (List Char)) :
    L.filterMap part = ((((L.map String.ofList).filter fun s => !s.isEmpty).filter (· != ".")).map
      fun s => if s = ".." then Component.up else .normal s) := by
  induction L with
  | nil => rfl
  | cons c L ih =>
    rw [List.filterMap_cons, ih, part_eq]
    by_cases empty : (String.ofList c).isEmpty = true
    · simp [empty]
    · by_cases dot : String.ofList c = "."
      · simp [dot]
      · simp [empty, dot]

theorem splitOn_sep_cons (rest : List Char) :
    ('/' :: rest).splitOn '/' = [] :: rest.splitOn '/' := by
  simpa using splitOn_append_sep [] rest

/-- A leading separator adds an empty part, which means nothing. -/
theorem filterMap_part_sep_cons (rest : List Char) :
    (('/' :: rest).splitOn '/').filterMap part = (rest.splitOn '/').filterMap part := by
  rw [splitOn_sep_cons, List.filterMap_cons_none part_nil]

/-- The leading root or `.` of a path holds no part that means something. -/
theorem filterMap_part_drop_head (p : Path) :
    ((p.text.toList.drop p.headLength).splitOn '/').filterMap part =
      (p.text.toList.splitOn '/').filterMap part := by
  cases rooted : p.hasRoot with
  | true =>
    have head : p.headLength = 1 := by simp [headLength, startsWithCurrent, rooted]
    rw [hasRoot, String.startsWith_string_iff] at rooted
    obtain ⟨rest, whole⟩ := rooted
    rw [head, ← whole]
    simp [filterMap_part_sep_cons]
  | false =>
    by_cases current : p.startsWithCurrent = true
    · have head : p.headLength = 1 := by simp [headLength, current, rooted]
      simp only [startsWithCurrent, rooted, Bool.not_false, Bool.true_and, Bool.or_eq_true,
        decide_eq_true_eq] at current
      rw [head]
      rcases current with dot | dotSlash
      · rw [dot]
        simp [splitOn_plain, List.filterMap_cons_none part_nil,
          List.filterMap_cons_none part_dot]
      · rw [String.startsWith_string_iff] at dotSlash
        obtain ⟨rest, whole⟩ := dotSlash
        rw [← whole]
        have dotFirst : ('.' :: '/' :: rest).splitOn '/' = ['.'] :: rest.splitOn '/' := by
          simpa [splitOn_plain] using splitOn_append_sep ['.'] rest
        simp [dotFirst, filterMap_part_sep_cons, List.filterMap_cons_none part_dot]
    · have head : p.headLength = 0 := by simp [headLength, current, rooted]
      rw [head, List.drop_zero]

/-- The file name of a path read off its parts: the last one other than `.`, unless it is
`..`. -/
def finalName (p : Path) : Option String :=
  ((p.parts.filter (· != ".")).getLast?).filter (· != "..")

/-- The last part that the end of a path yields is its last part other than `.`. -/
theorem lastMeaningful_eq_parts (p : Path) :
    (lastMeaningful p.headLength (p.text.toList.length + 1) p.text.toList).1 =
      ((p.parts.filter (· != ".")).getLast?).map
        fun s => if s = ".." then Component.up else .normal s := by
  rw [lastMeaningful_fst _ _ _ (by rw [List.length_drop]; omega), filterMap_part_drop_head,
    filterMap_part, List.getLast?_map]
  rfl

theorem fileName_eq_finalName (p : Path) : p.fileName = p.finalName := by
  have last := lastMeaningful_eq_parts p
  unfold fileName finalName nextBack
  dsimp only
  rcases found : lastMeaningful p.headLength (p.text.toList.length + 1) p.text.toList
    with ⟨_ | c, rest⟩
  · rw [found] at last
    have none : (p.parts.filter (· != ".")).getLast? = none := by
      simpa using last.symm
    -- with no part left the end is the root, the leading `.` or nothing: no name
    rw [none]
    split_ifs <;> rfl
  · rw [found] at last
    obtain ⟨s, named, spelled⟩ := Option.map_eq_some_iff.mp last.symm
    rw [named, ← spelled]
    by_cases dots : s = ".." <;> simp [dots, Option.filter]

end Path

end SyscallTables
