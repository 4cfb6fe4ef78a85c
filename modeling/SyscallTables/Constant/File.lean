import SyscallTables.Constant.Literal
import SyscallTables.Constant.Table
import SyscallTables.Source.Position
import SyscallTables.Text.Blank
import SyscallTables.Text.Lines

namespace SyscallTables.ConstFile

/-! Constant files: one `NAME = value` binding per line. Blank lines and lines whose text
starts with `#` say nothing; every other line binds a name or yields one diagnostic at its
first non-blank byte. A name keeps its first value; a later equal value is accepted and a
different one reported. -/

/-- What one line of a constant file says. -/
inductive Line
  | skip
  | binding (name : String) (value : UInt64)
  | malformed (message : String)
  deriving DecidableEq, Repr

/-- An identifier: an ASCII letter or `_`, then ASCII letters, digits or `_`. -/
def isIdentifier (s : String) : Bool :=
  match s.toList with
  | [] => false
  | c :: cs => (c.isAlpha || c = '_') && cs.all fun d => d.isAlphanum || d = '_'

/-- The text before and after the first `=`. -/
def splitAtEquals (cs : List Char) : Option (List Char × List Char) :=
  match cs.span (· != '=') with
  | (before, '=' :: after) => some (before, after)
  | _ => none

/-- Reads one line. -/
def readLine (line : String) : Line :=
  let trimmed := Text.trim line
  if trimmed.isEmpty || trimmed.startsWith "#" then .skip
  else
    match splitAtEquals trimmed.toList with
    | none => .malformed ("expected 'NAME = value', got '" ++ trimmed ++ "'")
    | some (before, after) =>
      let name := String.ofList (Text.trimChars before)
      let value := String.ofList (Text.trimChars after)
      if !isIdentifier name then .malformed ("bad constant name '" ++ name ++ "'")
      else
        match Literal.parse value with
        | none => .malformed ("bad value '" ++ value ++ "' for " ++ name)
        | some v => .binding name v

/-- The column of a line's first non-blank byte. -/
def firstColumn (line : String) : Nat :=
  line.utf8ByteSize - (Text.trimStart line).utf8ByteSize + 1

/-- Adds one line's binding to the table, or its diagnostic to the list. -/
def addLine (file : String) (state : ConstTable × List Diagnostic) (numbered : Nat × String) :
    ConstTable × List Diagnostic :=
  let (table, diags) := state
  let (index, line) := numbered
  let here : Position := ⟨file, index + 1, firstColumn line⟩
  match readLine line with
  | .skip => state
  | .malformed message => (table, diags ++ [⟨here, message⟩])
  | .binding name value =>
    match table.get? name with
    | none => (table.insert name value, diags)
    | some previous =>
      if previous = value then state
      else (table, diags ++ [⟨here, "conflicting values for " ++ name ++ ": " ++
        toString previous.toNat ++ " and " ++ toString value.toNat⟩])

/-- Reads one constant file into a table and a diagnostic list. -/
def read (file source : String) (state : ConstTable × List Diagnostic) :
    ConstTable × List Diagnostic :=
  ((Text.lines source).zipIdx.map fun (line, i) => (i, line)).foldl (addLine file) state

end SyscallTables.ConstFile
