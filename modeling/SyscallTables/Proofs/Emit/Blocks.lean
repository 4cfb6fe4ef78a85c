import SyscallTables.Emit.Artifacts
import SyscallTables.Generator.Writer

namespace SyscallTables

/-! The blocks of a C table. Each architecture's table is one block opened by `#if` on a line
of its own, so cutting the table text at every newline followed by `#if ` gives its blocks.
A block is a run of lines: the guard, the defines, the count, the table's rows and the closing
lines. The block holds one row line per syscall, and when no name or macro put into it holds a
newline, nothing but its own opening starts with `#if `, so the cut finds exactly the blocks.
A syscall name with a newline followed by `#if ` opens a block of its own. -/

/-! ## Cutting a text -/

/-- The pieces of a text between the occurrences of a separator, found from the left without
overlap, as `str::split` cuts it. -/
def splitText (sep : List Char) : List Char → List (List Char)
  | [] => [[]]
  | c :: rest =>
    if _found : sep ≠ [] ∧ sep <+: c :: rest then
      [] :: splitText sep ((c :: rest).drop sep.length)
    else
      match splitText sep rest with
      | piece :: pieces => (c :: piece) :: pieces
      | [] => [[c]]
termination_by text => text.length
decreasing_by
  · obtain ⟨nonempty, -⟩ := _found
    have positive : 0 < sep.length := List.length_pos_iff.mpr nonempty
    simp only [List.length_drop, List.length_cons]
    omega
  · simp

section Cutting

variable {sep : List Char}

theorem splitText_sep (nonempty : sep ≠ []) (rest : List Char) :
    splitText sep (sep ++ rest) = [] :: splitText sep rest := by
  obtain ⟨c, sep', rfl⟩ := List.exists_cons_of_ne_nil nonempty
  rw [List.cons_append, splitText, dif_pos ⟨nonempty, List.prefix_append _ _⟩]
  simp

theorem splitText_cons {c : Char} {rest piece : List Char} {pieces : List (List Char)}
    (miss : ¬ sep <+: c :: rest) (cut : splitText sep rest = piece :: pieces) :
    splitText sep (c :: rest) = (c :: piece) :: pieces := by
  rw [splitText, dif_neg fun found => miss found.2, cut]

theorem splitText_plain (text : List Char) (clean : ¬ sep <:+: text) :
    splitText sep text = [text] := by
  induction text with
  | nil => simp [splitText]
  | cons c rest ih =>
    have restClean : ¬ sep <:+: rest := fun inner =>
      clean (inner.trans (List.suffix_cons c rest).isInfix)
    exact splitText_cons (fun found => clean found.isInfix) (ih restClean)

end Cutting

/-! ## Separators opening a line -/

section Lines

variable {word : List Char}

/-- An occurrence of a newline and a word without newlines, in text around one newline, lies
before it, starts at it, or lies after it. -/
theorem newline_infix (plain : '\n' ∉ word) {a b : List Char}
    (found : ('\n' :: word) <:+: a ++ '\n' :: b) :
    ('\n' :: word) <:+: a ∨ word <+: b ∨ ('\n' :: word) <:+: b := by
  obtain ⟨s, t, split⟩ := found
  rw [List.append_assoc, List.cons_append] at split
  rcases List.append_eq_append_iff.mp split with ⟨rest, inA, after⟩ | ⟨rest, inB, after⟩
  · -- the occurrence starts inside `a` or at the newline
    cases rest with
    | nil =>
      have same : word ++ t = b := by simpa using after
      exact .inr (.inl ⟨t, same⟩)
    | cons x rest =>
      obtain ⟨rfl, within⟩ := List.cons_eq_cons.mp after
      rcases List.append_eq_append_iff.mp within with ⟨more, longer, -⟩ | ⟨more, shorter, tail⟩
      · exact .inl ⟨s, more, by simp [inA, longer]⟩
      · -- the word cannot run over the newline, having none
        cases more with
        | nil =>
          rw [List.append_nil] at shorter
          exact .inl ⟨s, [], by simp [inA, shorter]⟩
        | cons y more =>
          obtain ⟨rfl, -⟩ := List.cons_eq_cons.mp tail
          have inWord : '\n' ∈ word := by
            rw [shorter]
            exact List.mem_append_right _ (List.mem_cons_self ..)
          exact absurd inWord plain
  · cases rest with
    | nil =>
      have same : b = word ++ t := by simpa using after
      exact .inr (.inl ⟨t, same.symm⟩)
    | cons x rest =>
      obtain ⟨-, rfl⟩ := List.cons_eq_cons.mp after
      exact .inr (.inr ⟨rest, t, by simp⟩)

/-- A word without newlines that starts a line starts the line's own text. -/
theorem prefix_of_prefix_newline (plain : '\n' ∉ word) {l rest : List Char}
    (found : word <+: l ++ '\n' :: rest) : word <+: l := by
  obtain ⟨t, split⟩ := found
  rcases List.append_eq_append_iff.mp split with ⟨more, longer, -⟩ | ⟨more, shorter, tail⟩
  · exact ⟨more, longer.symm⟩
  · cases more with
    | nil => exact ⟨[], by simpa using shorter⟩
    | cons y more =>
      obtain ⟨rfl, -⟩ := List.cons_eq_cons.mp tail
      have inWord : '\n' ∈ word := by
        rw [shorter]
        exact List.mem_append_right _ (List.mem_cons_self ..)
      exact absurd inWord plain

/-- Lines without newlines, joined, hold a newline followed by a word only where a line after
the first starts with that word. -/
theorem not_newline_infix_intercalate (plain : '\n' ∉ word) (lines : List (List Char))
    (plainLines : ∀ l ∈ lines, '\n' ∉ l) (starts : ∀ l ∈ lines.tail, ¬ word <+: l) :
    ¬ ('\n' :: word) <:+: ['\n'].intercalate lines := by
  induction lines with
  | nil => simp
  | cons l rest ih =>
    cases rest with
    | nil =>
      rw [List.intercalate_singleton]
      exact fun found => plainLines l (by simp) (found.subset (List.mem_cons_self ..))
    | cons next rest =>
      rw [List.intercalate_cons_cons, List.append_assoc, List.singleton_append]
      intro found
      rcases newline_infix plain found with inLine | atNext | later
      · exact plainLines l (by simp) (inLine.subset (List.mem_cons_self ..))
      · -- the word would start the next line
        have startsNext : word <+: next := by
          cases rest with
          | nil => simpa using atNext
          | cons _ _ =>
            rw [List.intercalate_cons_cons, List.append_assoc, List.singleton_append] at atNext
            exact prefix_of_prefix_newline plain atNext
        exact starts next (by simp) startsNext
      · exact ih (fun m member => plainLines m (List.mem_cons_of_mem _ member))
          (fun m member => starts m (List.mem_cons_of_mem _ member)) later

/-- Cutting at a newline and a word without newlines takes off a first piece that holds none. -/
theorem splitText_piece (plain : '\n' ∉ word) {piece : List Char}
    (clean : ¬ ('\n' :: word) <:+: piece) (rest : List Char) :
    splitText ('\n' :: word) (piece ++ '\n' :: (word ++ rest)) =
      piece :: splitText ('\n' :: word) rest := by
  induction piece with
  | nil => exact splitText_sep (List.cons_ne_nil _ _) rest
  | cons c piece ih =>
    -- a separator starting here would lie inside the piece, the word holding no newline
    have miss : ¬ ('\n' :: word) <+: c :: (piece ++ '\n' :: (word ++ rest)) := by
      intro found
      obtain ⟨rfl, inner⟩ := List.cons_prefix_cons.mp found
      exact clean (List.cons_prefix_cons.mpr ⟨rfl, prefix_of_prefix_newline plain inner⟩).isInfix
    have restClean : ¬ ('\n' :: word) <:+: piece :=
      fun inner => clean (inner.trans (List.suffix_cons c piece).isInfix)
    exact splitText_cons miss (ih restClean)

/-- A text made of a first piece and pieces each opened by the separator cuts into exactly those
pieces, when none of them holds the separator. -/
theorem splitText_opened (plain : '\n' ∉ word) (first : List Char) (pieces : List (List Char))
    (clean : ∀ piece ∈ first :: pieces, ¬ ('\n' :: word) <:+: piece) :
    splitText ('\n' :: word) (first ++ pieces.flatMap (('\n' :: word) ++ ·)) =
      first :: pieces := by
  induction pieces generalizing first with
  | nil => simpa using splitText_plain first (clean first (by simp))
  | cons piece rest ih =>
    simp only [List.flatMap_cons, List.append_assoc, List.cons_append]
    rw [splitText_piece plain (clean first (by simp))]
    exact congrArg (first :: ·) (ih piece fun p member => clean p (List.mem_cons_of_mem _ member))

end Lines

/-! ## The lines of a block -/

theorem intercalate_newline (first : List Char) (rest : List (List Char)) :
    ['\n'].intercalate (first :: rest) = first ++ rest.flatMap ('\n' :: ·) := by
  induction rest generalizing first with
  | nil => simp
  | cons next rest ih =>
    rw [List.intercalate_cons_cons, ih next]
    simp

/-- Lines each ended by a newline, after one more newline, are the lines each opened by one,
then a newline. -/
theorem newline_flatMap_ended {α : Type} (f : α → List Char) (items : List α) (rest : List Char) :
    '\n' :: (items.flatMap (fun x => f x ++ ['\n']) ++ rest) =
      items.flatMap (fun x => '\n' :: f x) ++ '\n' :: rest := by
  induction items with
  | nil => rfl
  | cons x items ih => simp [ih]

theorem newline_not_mem_toDigits (n : Nat) : '\n' ∉ Nat.toDigits 10 n := by
  intro member
  have digit := @Nat.isDigit_of_mem_toDigits 10 n '\n' (by decide) (by decide) member
  simp at digit

theorem newline_not_mem_repr (i : Int) : '\n' ∉ i.repr.toList := by
  cases i with
  | ofNat n => simpa [Int.repr, Nat.repr] using newline_not_mem_toDigits n
  | negSucc n => simpa [Int.repr, Nat.repr] using newline_not_mem_toDigits (n + 1)

namespace CTemplate

/-- A row of the table as a line, without its newline. -/
def rowLine (t : CTemplate) (r : CRow) : String :=
  let nr := toString (lowSigned32 r.nr)
  if r.needCall then
    "\t\x7b\"" ++ r.name ++ "\", " ++ nr ++ ", (" ++ t.callbackType ++ ")" ++ r.callName ++ "\x7d,"
  else "\t\x7b\"" ++ r.name ++ "\", " ++ nr ++ "\x7d,"

/-- The guard of an architecture's block: each of its macros tested in turn. -/
def guard (cArch : List String) : String :=
  String.join (cArch.map fun m => "defined(" ++ m ++ ") || ") ++ "0"

/-- The line that states the number of rows. -/
def countLine (t : CTemplate) (count : Nat) : String :=
  "unsigned " ++ t.countName ++ " = " ++ toString count ++ ";"

/-- The lines of an architecture's block after its opening `#if `. -/
def blockLines (t : CTemplate) (d : ArchData) : List String :=
  [guard d.cArch,
    "#define " ++ t.archMacro ++ " \"" ++ d.arch ++ "\"",
    "#define " ++ t.macroPrefix ++ "REVISION \"" ++ d.revision ++ "\"",
    "#define " ++ t.macroPrefix ++ "PAGE_SIZE " ++ toString d.pageSize,
    "#define " ++ t.macroPrefix ++ "NUM_PAGES " ++ toString d.numPages,
    "#define " ++ t.macroPrefix ++ "DATA_OFFSET " ++ toString d.dataOffset,
    t.countLine d.rows.length,
    t.entryType ++ " " ++ t.tableName ++ "[] = \x7b"] ++
  d.rows.map t.rowLine ++ ["\x7d;", "#endif", ""]

/-- The text of an architecture's block after its opening `#if `. -/
def blockText (t : CTemplate) (d : ArchData) : List Char :=
  ['\n'].intercalate ((t.blockLines d).map String.toList)

theorem row_eq (t : CTemplate) (r : CRow) : t.row r = t.rowLine r ++ "\n" := by
  unfold row rowLine
  split <;> simp [String.append_assoc]

theorem render_toList (t : CTemplate) (d : ArchData) :
    (t.render d).toList = "\n#if ".toList ++ t.blockText d := by
  rw [blockText, blockLines, List.cons_append, List.cons_append, List.map_cons, intercalate_newline]
  unfold render guard countLine
  -- both sides as one list of characters; each row line then its newline
  simp only [String.toList_append, String.toList_join, List.map_map, List.flatMap_append,
    List.map_append, List.flatMap_cons, List.map_cons, List.flatMap_nil, List.map_nil,
    List.append_assoc, List.cons_append, List.nil_append, Function.comp_def, row_eq,
    List.flatMap_map, String.reduceToList, newline_flatMap_ended]

/-- The names a template writes, none holding a newline, and a table type that starts neither
a directive nor a row. -/
structure Plain (t : CTemplate) : Prop where
  names : ∀ s ∈ [t.archMacro, t.macroPrefix, t.entryType, t.tableName, t.countName,
    t.callbackType], '\n' ∉ s.toList
  entryType : t.entryType.toList.head? ≠ some '#' ∧ t.entryType.toList.head? ≠ some '\t'

end CTemplate

/-- What the block of an architecture shows, none of it holding a newline. -/
structure ArchData.Plain (d : ArchData) : Prop where
  arch : '\n' ∉ d.arch.toList
  cArch : ∀ m ∈ d.cArch, '\n' ∉ m.toList
  revision : '\n' ∉ d.revision.toList
  rows : ∀ r ∈ d.rows, '\n' ∉ r.name.toList ∧ '\n' ∉ r.callName.toList

/-- The number of lines of a block that are rows of its table. -/
def tableRows (block : List Char) : Nat :=
  ((block.splitOn '\n').filter fun l => "\t\x7b".toList.isPrefixOf l).length

namespace CTemplate

variable {t : CTemplate} {d : ArchData}

theorem rowLine_plain (plainTemplate : t.Plain) {r : CRow} (plainRow : '\n' ∉ r.name.toList ∧
    '\n' ∉ r.callName.toList) : '\n' ∉ (t.rowLine r).toList := by
  have names := plainTemplate.names
  simp only [List.mem_cons, List.not_mem_nil, or_false, forall_eq_or_imp, forall_eq] at names
  unfold rowLine
  split <;> simp [plainRow, names, newline_not_mem_repr]

theorem blockLines_plain (plainTemplate : t.Plain) (plainData : d.Plain) :
    ∀ l ∈ t.blockLines d, '\n' ∉ l.toList := by
  have names := plainTemplate.names
  simp only [List.mem_cons, List.not_mem_nil, or_false, forall_eq_or_imp, forall_eq] at names
  have rows : ∀ r ∈ d.rows, '\n' ∉ (t.rowLine r).toList :=
    fun r member => rowLine_plain plainTemplate (plainData.rows r member)
  have macros : ∀ m ∈ d.cArch, '\n' ∉ m.toList := plainData.cArch
  simp only [blockLines, List.cons_append, List.nil_append, List.mem_cons, List.mem_append,
    List.mem_map] at *
  simp [guard, countLine, String.toList_join, names, plainData.arch, plainData.revision,
    newline_not_mem_toDigits, or_imp, forall_and]
  exact ⟨macros, rows⟩

/-- No line after a block's guard starts as an opening `#if ` does. -/
theorem blockLines_tail (plainTemplate : t.Plain) :
    ∀ l ∈ (t.blockLines d).tail, ¬ "#if ".toList <+: l.toList := by
  intro l member
  simp only [blockLines, List.cons_append, List.nil_append, List.tail_cons,
    List.mem_cons, List.mem_append, List.mem_map, List.not_mem_nil, or_false] at member
  rcases member with rfl | rfl | rfl | rfl | rfl | rfl | rfl | ⟨r, -, rfl⟩ | rfl | rfl | rfl
  · simp
  · simp
  · simp
  · simp
  · simp
  · simp [countLine]
  · -- the table's type starts with neither a directive's nor a row's character
    have notHash := plainTemplate.entryType.1
    cases entry : t.entryType.toList with
    | nil => simp [entry]
    | cons c rest =>
      have other : c ≠ '#' := by simpa [entry] using notHash
      simp [entry, Ne.symm other]
  · unfold rowLine
    split <;> simp
  · simp
  · simp
  · simp

theorem blockText_lines (plainTemplate : t.Plain) (plainData : d.Plain) :
    (t.blockText d).splitOn '\n' = (t.blockLines d).map String.toList := by
  refine List.splitOn_intercalate '\n' (fun l member => ?_) (by simp [blockLines])
  obtain ⟨line, inLines, rfl⟩ := List.mem_map.mp member
  exact blockLines_plain plainTemplate plainData line inLines

theorem rowLine_starts (r : CRow) : ['\t', '\x7b'] <+: (t.rowLine r).toList := by
  unfold rowLine
  split <;> simp

/-- Of a block's lines, exactly the rows of its table start as a row does. -/
theorem tableRows_blockText (plainTemplate : t.Plain) (plainData : d.Plain) :
    tableRows (t.blockText d) = d.rows.length := by
  have guardLine : "\t\x7b".toList.isPrefixOf (guard d.cArch).toList = false := by
    cases d.cArch <;> simp [guard, String.toList_join, List.isPrefixOf]
  have entryLine : "\t\x7b".toList.isPrefixOf
      (t.entryType ++ " " ++ t.tableName ++ "[] = \x7b").toList = false := by
    have notTab := plainTemplate.entryType.2
    cases entry : t.entryType.toList with
    | nil => simp [entry, List.isPrefixOf]
    | cons c rest =>
      have other : c ≠ '\t' := by simpa [entry] using notTab
      simp [entry, Ne.symm other, List.isPrefixOf]
  simp only [String.reduceToList, String.toList_append, List.cons_append, List.nil_append,
    List.append_assoc] at guardLine entryLine
  rw [tableRows, blockText_lines plainTemplate plainData]
  simp [blockLines, List.filter_append, countLine, guardLine, entryLine, List.filter_map,
    Function.comp_def, List.isPrefixOf]
  exact fun r _ => rowLine_starts r

/-- What the block of an architecture shows: its guard first, a line stating a count, and as
many rows as that count. -/
structure BlockShows (t : CTemplate) (cArch : List String) (count : Nat) (block : List Char) :
    Prop where
  opens : ((guard cArch).toList ++ ['\n']) <+: block
  states : (t.countLine count).toList ∈ block.splitOn '\n'
  rows : tableRows block = count

theorem blockText_shows (plainTemplate : t.Plain) (plainData : d.Plain) :
    BlockShows t d.cArch d.rows.length (t.blockText d) where
  opens := by
    rw [blockText, blockLines, List.cons_append, List.cons_append, List.map_cons,
      intercalate_newline]
    simp
  states := by
    rw [blockText_lines plainTemplate plainData]
    simp [blockLines]
  rows := tableRows_blockText plainTemplate plainData

theorem cTableHeader_clean : ¬ ('\n' :: "#if ".toList) <:+: cTableHeader.toList := by
  have lines :
      cTableHeader.toList = ['\n'].intercalate ["// AUTOGENERATED FILE".toList, [], []] := by
    simp [cTableHeader]
  rw [lines]
  exact not_newline_infix_intercalate (by simp) _ (by simp) (by simp)

/-- Tables of architectures whose names hold no newline, written one after another behind the
header, cut at every newline followed by `#if ` into the header and exactly their blocks, in
order. -/
theorem splitText_cTable (plainTemplate : t.Plain) (datas : List ArchData)
    (plainData : ∀ d ∈ datas, d.Plain) :
    splitText "\n#if ".toList (cTableHeader ++ String.join (datas.map t.render)).toList =
      cTableHeader.toList :: datas.map t.blockText := by
  have opened : (cTableHeader ++ String.join (datas.map t.render)).toList =
      cTableHeader.toList ++ (datas.map t.blockText).flatMap (('\n' :: "#if ".toList) ++ ·) := by
    simp [String.toList_join, render_toList, List.flatMap_map]
  rw [opened, show "\n#if ".toList = '\n' :: "#if ".toList by simp]
  refine splitText_opened (by simp) _ _ fun piece member => ?_
  rcases List.mem_cons.mp member with rfl | inBlocks
  · exact cTableHeader_clean
  · -- a block is lines without newlines, none after the guard starting with `#if `
    obtain ⟨d, inDatas, rfl⟩ := List.mem_map.mp inBlocks
    refine not_newline_infix_intercalate (by simp) _ (fun l inLines => ?_) (fun l inTail => ?_)
    · obtain ⟨line, inBlock, rfl⟩ := List.mem_map.mp inLines
      exact blockLines_plain plainTemplate (plainData d inDatas) line inBlock
    · rw [← List.map_tail] at inTail
      obtain ⟨line, inBlock, rfl⟩ := List.mem_map.mp inTail
      exact blockLines_tail plainTemplate line inBlock

end CTemplate

end SyscallTables
