import SyscallTables.Toml.Reader
import SyscallTables.Toml.Error

namespace SyscallTables.Toml

/-! Reading a whole TOML document. The text is a sequence of lines: blank lines, comments,
headers opening a table or the next table of an array of tables, and `key = value` pairs that
go into the table opened last. A failure points at one byte (or at the end of the text); one
found while assembling the document points at the start of the line that caused it, and one
found only after the last line points nowhere. -/

/-- The context of a header's failures. -/
def headerContext : List Context := [.label "table header"]

/-- What may end a line after a header or a pair. -/
def lineEndExpected : List Context := [.expected (.char '\n'), .expected (.char '#')]

/-- A header at its bracket, opening its table in the assembly. -/
def header (a : Assembly) (c : Cursor) : Except Failure (Assembly × Cursor) :=
  if c.rest.length < 2 then .error { offset := c.offset, contexts := headerContext, hard := true }
  else
    let isArray := c.startsWith [91, 91]
    let width := if isArray then 2 else 1
    match key (c.advance width) with
    | .error f => .error { f.within headerContext with hard := true }
    | .ok (path, c1) =>
      if !c1.startsWith (List.replicate width 93) then
        .error { offset := c1.offset, hard := true,
                 contexts := [.expected (.char '.'),
                   .expected (.literal (if isArray then "]]" else "]"))] ++ headerContext }
      else
        let c2 := c1.advance width
        match lineTrailing c2 with
        | .error f => .error { f.within (lineEndExpected ++ headerContext) with hard := true }
        | .ok c3 =>
          let span : Span := ⟨c.offset, c2.offset⟩
          let opened := if isArray then a.startArrayTable path span else a.startTable path span
          match opened with
          | .ok a' => .ok (a', c3)
          | .error e =>
            .error { offset := c.offset, contexts := headerContext, cause := some e.message,
                     hard := true }

/-- The fuel a value of the rest of the text needs: one step per byte for its items and a
few per level of nesting. -/
def valueFuel (c : Cursor) : Nat := 2 * c.rest.length + 4 * recursionLimit + 8

/-- A `key = value` line, added to the current table. -/
def keyval (a : Assembly) (c : Cursor) : Except Failure (Assembly × Cursor) :=
  match key c with
  | .error f => .error { f with hard := true }
  | .ok (path, c1) =>
    if c1.peek != some 61 then
      .error { offset := c1.offset, contexts := [.expected (.char '.'), .expected (.char '=')],
               hard := true }
    else
      let c2 := skipBlanks (c1.advance 1)
      match value (valueFuel c2) 0 c2 with
      | .error f => .error { f with hard := true }
      | .ok (v, c3) =>
        match lineTrailing c3 with
        | .error f => .error { f.within lineEndExpected with hard := true }
        | .ok c4 =>
          match a.keyval path.dropLast (path.getLastD default) v with
          | .ok a' => .ok (a', c4)
          | .error e => .error { offset := c.offset, cause := some e.message, hard := true }

/-- The lines of a document; stops at the end of the text or at a carriage return that ends no
line. -/
def lines (a : Assembly) : Nat → Cursor → Except Failure (Assembly × Cursor)
  | 0, c => .ok (a, c)
  | fuel + 1, c =>
    match c.peek with
    | none => .ok (a, c)
    | some b =>
      if b = 35 then
        match lineEnding (skipComment c) with
        | .ok c' => lines a fuel (skipBlanks c')
        | .error f => .error { f with hard := true }
      else if b = 91 then do
        let (a', c') ← header a c
        lines a' fuel (skipBlanks c')
      else if b = 10 || b = 13 then
        match newline c with
        | .ok c' => lines a fuel (skipBlanks c')
        | .error _ => .ok (a, c)
      else do
        let (a', c') ← keyval a c
        lines a' fuel (skipBlanks c')

/-- Whether a byte starts a character of UTF-8 text (it is no continuation byte). -/
def startsChar (b : UInt8) : Bool := b < 0x80 || 0xC0 ≤ b

/-- The span of the character that holds a byte offset: from the last character start at or
before it to the next character start after it, or to the end. At the end of the text the
span is empty. -/
def charSpan (bytes : List UInt8) (offset : Nat) : Span :=
  if offset ≥ bytes.length then ⟨offset, offset⟩
  else
    let before := (List.range (offset + 1)).reverse.find? fun i =>
      (bytes[i]?.map startsChar).getD false
    let after := (List.range (bytes.length - offset - 1)).find? fun j =>
      (bytes[offset + 1 + j]?.map startsChar).getD false
    ⟨before.getD 0, (after.map (offset + 1 + ·)).getD bytes.length⟩

/-- The error of a failure in a text: it spans the character it points at. -/
def Failure.toError (bytes : List UInt8) (f : Failure) : Error :=
  { message := f.message, span := some (charSpan bytes f.offset) }

/-- The byte order mark, skipped at the start of a document. -/
def byteOrderMark : List UInt8 := [0xEF, 0xBB, 0xBF]

/-- Reads a document into its root table. -/
def parse (source : String) : Except Error Node :=
  let bytes := source.toUTF8.toList
  let start : Cursor := ⟨bytes, 0⟩
  let start := if start.startsWith byteOrderMark then start.advance 3 else start
  match lines {} (bytes.length + 1) (skipBlanks start) with
  | .error f => .error (f.toError bytes)
  | .ok (a, c) =>
    if !c.rest.isEmpty then .error (Failure.toError bytes { offset := c.offset })
    else
      match a.finalize with
      | .ok a => .ok a.root
      | .error e => .error { message := e.message }

end SyscallTables.Toml
