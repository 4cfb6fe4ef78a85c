import SyscallTables.Toml.Document

namespace SyscallTables.Toml

/-! Errors of reading a TOML document into a value. An error with a span is shown with the
line it points into: a header naming the line and the column, the line itself behind a gutter
as wide as the line number, and carets under the span. Lines and columns count from one; the
column counts characters, unless the bytes up to the error do not end on a character boundary,
when it counts bytes. An error without a span names the keys that lead to it. -/

/-- An error: its message, the span it points at, and the keys leading to it. -/
structure Error where
  message : String
  span : Option Span := none
  keys : List String := []
  deriving Repr, Inhabited

/-- The line and column (both from zero) of a byte offset. An offset at the end of the text is
one column past its last byte. -/
def position (source : List UInt8) (index : Nat) : Nat × Nat :=
  if source.isEmpty then (0, index)
  else
    let safe := min index (source.length - 1)
    let pastEnd := index - safe
    let lineStart := match (source.take safe).reverse.findIdx? (· == 10) with
      | some k => safe - k
      | none => 0
    let line := (source.take lineStart).count 10
    let upTo := (source.drop lineStart).take (safe + 1 - lineStart)
    let column := match String.fromUTF8? ⟨upTo.toArray⟩ with
      | some s => s.length - 1
      | none => safe - lineStart
    (line, column + pastEnd)

/-- `n` copies of a character. -/
def repeatChar (c : Char) (n : Nat) : String := String.ofList (List.replicate n c)

/-- The text of an error about a source: the pointed line when there is a span, then the
message. -/
def Error.render (source : String) (e : Error) : String :=
  match e.span with
  | some s =>
    let (line, column) := position source.toUTF8.toList s.start
    let lineNumber := toString (line + 1)
    let gutter := repeatChar ' ' (lineNumber.length + 1)
    let content := (source.splitOn "\n").getD line ""
    let width := min (s.stop - s.start) (content.utf8ByteSize - column)
    "TOML parse error at line " ++ lineNumber ++ ", column " ++ toString (column + 1) ++ "\n" ++
      gutter ++ "|\n" ++
      lineNumber ++ " | " ++ content ++ "\n" ++
      gutter ++ "|" ++ repeatChar ' ' (column + 1) ++ "^" ++ repeatChar '^' (width - 1) ++ "\n" ++
      e.message ++ "\n"
  | none =>
    e.message ++ "\n" ++
      (if e.keys.isEmpty then "" else "in `" ++ ".".intercalate e.keys ++ "`\n")

end SyscallTables.Toml
