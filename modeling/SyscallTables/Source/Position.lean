namespace SyscallTables

/-! Places in input files. A position names a file and a 1-based line and column counted in
bytes; line 0 stands for the file (or pattern) as a whole. -/

/-- A place in an input file. -/
structure Position where
  file : String
  line : Nat
  column : Nat
  deriving DecidableEq, Repr, Inhabited

namespace Position

/-- The byte `\n`. -/
def newline : UInt8 := 10

/-- A position naming only a file or a pattern. -/
def ofFile (file : String) : Position := ⟨file, 0, 0⟩

/-- The line and column of a byte offset, clamped to the end of the source: the line counts
the newlines before the offset, the column the bytes since the last of them. -/
def ofOffsetBytes (file : String) (source : List UInt8) (offset : Nat) : Position :=
  let before := source.take offset
  { file := file
    line := before.count newline + 1
    column := (before.reverse.takeWhile (· != newline)).length + 1 }

/-- The position of a byte offset into a source text. -/
def ofOffset (file : String) (source : String) (offset : Nat) : Position :=
  ofOffsetBytes file source.toUTF8.toList offset

/-- `file:line:column`, or the bare file for line 0. -/
def render (p : Position) : String :=
  if p.line = 0 then p.file else p.file ++ ":" ++ toString p.line ++ ":" ++ toString p.column

end Position

/-- A message attached to a position. -/
structure Diagnostic where
  position : Position
  message : String
  deriving DecidableEq, Repr, Inhabited

/-- `position: message`. -/
def Diagnostic.render (d : Diagnostic) : String :=
  d.position.render ++ ": " ++ d.message

/-- The summary of a failed parse, load or compile: the count and the first message. -/
def Diagnostic.summary (ds : List Diagnostic) : String :=
  toString ds.length ++ " error(s), first: " ++ ((ds.head?.map Diagnostic.render).getD "")

end SyscallTables
