import Mathlib.Data.List.Basic
import Mathlib.Data.Nat.SuccPred
import Mathlib.Data.Prod.Lex
import Mathlib.Order.Interval.Set.Monotone
import SyscallTables.Source.Position

namespace SyscallTables

namespace Position

/-! Line and column of a byte offset. Read one byte at a time, a source moves the position on: a
newline to column 1 of the next line, any other byte one column along. The position of an
offset is where that reading stands after the bytes before it, so its line counts the newlines
read, its column counts back to the start of the line (the start of the text or the byte after a
newline), and the offset is that start plus the column less one. Every byte moves the position
forward, lines first and columns second, so distinct offsets up to the end of the source have
distinct positions, in the order of the offsets. Main statement: `ofOffset_decodes_line_column`. -/

/-- The byte offsets at which the lines of a text start: its start, and the offset right after
each newline. -/
def lineStarts (bytes : List UInt8) : List Nat :=
  0 :: (bytes.findIdxs (· == newline)).map (· + 1)

example : lineStarts "a = 1\nbb = 2\nccc".toUTF8.toList = [0, 6, 13] := by decide +kernel

/-- The position after one more byte: a newline starts the next line, any other byte moves one
column along it. -/
def advance (p : Position) (b : UInt8) : Position :=
  if b = newline then { p with line := p.line + 1, column := 1 }
  else { p with column := p.column + 1 }

/-- Every byte moves the position forward, comparing lines first and columns second. -/
theorem lex_lt_advance (p : Position) (b : UInt8) :
    toLex (p.line, p.column) < toLex ((p.advance b).line, (p.advance b).column) := by
  rw [Prod.Lex.toLex_lt_toLex]
  by_cases nl : b = newline <;> simp [advance, nl]

/-- Offset `o` of `bytes` has the line and column of `p`. The line counts the newlines before
`o`, plus one. The column counts the bytes between the start of that line and `o`, plus one:
the line starts at the start of the text or right after a newline, holds no newline before `o`,
and is the line start of index `p.line - 1`. -/
structure Locates (bytes : List UInt8) (o : Nat) (p : Position) : Prop where
  line_eq : p.line = (bytes.take o).count newline + 1
  column_eq : ∃ start ≤ o, p.column = o - start + 1 ∧
    (start = 0 ∨ bytes[start - 1]? = some newline) ∧
    (∀ i, start ≤ i → i < o → bytes[i]? ≠ some newline) ∧
    (lineStarts bytes)[p.line - 1]? = some start

section Bytes

variable (file : String) (bytes : List UInt8)

theorem ofOffsetBytes_line (o : Nat) :
    (ofOffsetBytes file bytes o).line = (bytes.take o).count newline + 1 := rfl

theorem ofOffsetBytes_zero : ofOffsetBytes file bytes 0 = ⟨file, 1, 1⟩ := by
  simp [ofOffsetBytes]

/-- Offsets past the end read as the end. -/
theorem ofOffsetBytes_clamp (o : Nat) :
    ofOffsetBytes file bytes (min o bytes.length) = ofOffsetBytes file bytes o := by
  simp only [ofOffsetBytes, ← List.take_eq_take_min]

/-- One byte further, the position has advanced over that byte. -/
theorem ofOffsetBytes_succ {o : Nat} (inside : o < bytes.length) :
    ofOffsetBytes file bytes (o + 1) = (ofOffsetBytes file bytes o).advance bytes[o] := by
  have grown : bytes.take (o + 1) = bytes.take o ++ [bytes[o]] :=
    List.take_succ_eq_append_getElem inside
  simp only [ofOffsetBytes]
  rw [grown, List.count_append, List.reverse_append, List.reverse_singleton, List.singleton_append,
    List.takeWhile_cons]
  by_cases nl : bytes[o] = newline <;> simp [advance, nl]

/-- A newline ends the line that follows the ones before it: the line after it starts right
after it, at the line start of index one past the newlines before it. -/
theorem lineStarts_after_newline (pre rest : List UInt8) :
    (lineStarts (pre ++ newline :: rest))[pre.count newline + 1]? = some (pre.length + 1) := by
  have counted : pre.count newline = (pre.findIdxs (· == newline)).length := by
    rw [List.length_findIdxs, List.count]
  simp [lineStarts, List.findIdxs_append, counted]

/-- Every line start is the start of the text or follows a newline. -/
theorem lineStarts_start {k s : Nat} (start : (lineStarts bytes)[k]? = some s) :
    s = 0 ∨ bytes[s - 1]? = some newline := by
  cases k with
  | zero => simp [lineStarts] at start; exact .inl start.symm
  | succ k =>
    simp only [lineStarts, List.getElem?_cons_succ, List.getElem?_map, Option.map_eq_some_iff]
      at start
    obtain ⟨i, found, rfl⟩ := start
    have member := List.mem_of_getElem? found
    obtain ⟨inside, isNewline⟩ := List.mem_findIdxs_iff_exists_getElem_pos.mp member
    right
    simpa [List.getElem?_eq_getElem inside] using isNewline

/-- The reading invariant: at offset `o`, the current line started at a line start no later than
`o`, the column counts the bytes since, and none of them is a newline. -/
theorem ofOffsetBytes_line_start {o : Nat} (within : o ≤ bytes.length) :
    ∃ start ≤ o, (ofOffsetBytes file bytes o).column = o - start + 1 ∧
      (∀ i, start ≤ i → i < o → bytes[i]? ≠ some newline) ∧
      (lineStarts bytes)[(ofOffsetBytes file bytes o).line - 1]? = some start := by
  induction o with
  | zero =>
    rw [ofOffsetBytes_zero]
    exact ⟨0, le_rfl, rfl, by omega, rfl⟩
  | succ o ih =>
    have inside : o < bytes.length := by omega
    obtain ⟨start, before, column, blank, found⟩ := ih inside.le
    rw [ofOffsetBytes_succ file bytes inside]
    by_cases nl : bytes[o] = newline
    · -- a newline: the next line starts right after it
      refine ⟨o + 1, le_rfl, by simp [advance, nl], by omega, ?_⟩
      have split : bytes.take o ++ newline :: bytes.drop (o + 1) = bytes := by
        rw [← nl, ← List.drop_eq_getElem_cons inside, List.take_append_drop]
      have next := lineStarts_after_newline (bytes.take o) (bytes.drop (o + 1))
      rw [split, List.length_take_of_le inside.le] at next
      simpa [advance, nl, ofOffsetBytes_line] using next
    · -- any other byte: same line, one column along
      refine ⟨start, by omega, by simp [advance, nl, column]; omega, ?_, by simpa [advance, nl]⟩
      intro i after below
      rcases Nat.lt_succ_iff_lt_or_eq.mp below with earlier | rfl
      · exact blank i after earlier
      · simpa [List.getElem?_eq_getElem inside] using nl

/-- Every offset up to the end of the bytes has the line and column the decoder gives it. -/
theorem ofOffsetBytes_locates {o : Nat} (within : o ≤ bytes.length) :
    Locates bytes o (ofOffsetBytes file bytes o) := by
  obtain ⟨start, before, column, blank, found⟩ := ofOffsetBytes_line_start file bytes within
  exact ⟨ofOffsetBytes_line file bytes o,
    ⟨start, before, column, lineStarts_start bytes found, blank, found⟩⟩

/-- Positions increase strictly with the offset, up to the end of the bytes. -/
theorem ofOffsetBytes_strictMonoOn :
    StrictMonoOn
      (fun o => toLex ((ofOffsetBytes file bytes o).line, (ofOffsetBytes file bytes o).column))
      (Set.Iic bytes.length) := by
  apply strictMonoOn_Iic_of_lt_succ
  intro o inside
  rw [Order.succ_eq_add_one, ofOffsetBytes_succ file bytes inside]
  exact lex_lt_advance _ _

end Bytes

/-- A byte offset of a source decodes to the line and column of the offset clamped to the end of
the source, and up to that end the positions increase strictly with the offset, lines first. -/
theorem ofOffset_decodes_line_column (file source : String) (o : Nat) :
    Locates source.toUTF8.toList (min o source.toUTF8.toList.length) (ofOffset file source o) ∧
    StrictMonoOn (fun o => toLex ((ofOffset file source o).line, (ofOffset file source o).column))
      (Set.Iic source.toUTF8.toList.length) := by
  have clamped := ofOffsetBytes_clamp file source.toUTF8.toList o
  constructor
  · rw [ofOffset, ← clamped]
    exact ofOffsetBytes_locates file source.toUTF8.toList (Nat.min_le_right _ _)
  · exact ofOffsetBytes_strictMonoOn file source.toUTF8.toList

example : ofOffset "f" "a = 1\nbb = 2\nccc" 9 = ⟨"f", 2, 4⟩ := by decide +kernel

example : ofOffset "f" "a = 1\nbb = 2\nccc" 1000 = ⟨"f", 3, 4⟩ := by decide +kernel

end Position

end SyscallTables
