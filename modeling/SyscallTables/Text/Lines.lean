namespace SyscallTables.Text

/-! Splitting a text into lines: a line ends at a line feed, which is dropped together with
one carriage return just before it; a final line feed ends the last line and opens none. -/

/-- Drops one carriage return from the end of a line's characters. -/
def dropCarriageReturn (cs : List Char) : List Char :=
  match cs.getLast? with
  | some '\r' => cs.dropLast
  | _ => cs

/-- The lines of a character list, the current line's characters accumulated reversed. -/
def linesFrom : List Char → List Char → List (List Char)
  | [], [] => []
  | [], current => [current.reverse]
  | '\n' :: rest, current => dropCarriageReturn current.reverse :: linesFrom rest []
  | c :: rest, current => linesFrom rest (c :: current)

/-- The lines of a text. -/
def lines (s : String) : List String :=
  (linesFrom s.toList []).map String.ofList

end SyscallTables.Text
