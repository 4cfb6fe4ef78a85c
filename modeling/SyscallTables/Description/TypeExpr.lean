import SyscallTables.Text.Blank

namespace SyscallTables

/-! Type expressions of descriptions: an identifier, optionally followed by a bracketed,
comma-separated list of at least one argument (`ptr[timespec]`, `const[AT_FDCWD, int32]`).
Identifiers are runs of ASCII letters, digits, `_` and `-`; ASCII blanks may surround every
part. The reader only ever steps over ASCII characters, so its offsets count bytes. -/

/-- A type expression. -/
inductive TypeExpr
  | ident (name : String)
  | apply (name : String) (args : List TypeExpr)
  deriving Repr, Inhabited

namespace TypeExpr

/-- The head identifier. -/
def name : TypeExpr → String
  | .ident n => n
  | .apply n _ => n

mutual
/-- `name[a, b]`: no blanks except one space after each comma. -/
def render : TypeExpr → String
  | .ident n => n
  | .apply n args => n ++ "[" ++ renderArgs args ++ "]"

/-- Arguments separated by `", "`. -/
def renderArgs : List TypeExpr → String
  | [] => ""
  | [a] => render a
  | a :: rest => render a ++ ", " ++ renderArgs rest
end

/-- Why a text is not a type expression. -/
inductive Error
  | expectedIdentifier (offset : Nat)
  | unterminated (name : String)
  | unexpected (found : Char) (input : String)
  deriving DecidableEq, Repr

/-- The text of a reading error. -/
def Error.message : Error → String
  | .expectedIdentifier offset => "expected identifier at offset " ++ toString offset
  | .unterminated name => "unterminated argument list for '" ++ name ++ "'"
  | .unexpected found input => "unexpected '" ++ found.toString ++ "' in type '" ++ input ++ "'"

/-- The unread characters and the byte offset of the first of them. -/
structure Cursor where
  rest : List Char
  offset : Nat

/-- A character that may appear in an identifier. -/
def isIdentChar (c : Char) : Bool := c.isAlphanum || c = '_' || c = '-'

/-- Steps over ASCII blanks. -/
def skipBlank : Cursor → Cursor
  | ⟨c :: rest, offset⟩ =>
    if Text.isAsciiBlank c then skipBlank ⟨rest, offset + 1⟩ else ⟨c :: rest, offset⟩
  | ⟨[], offset⟩ => ⟨[], offset⟩
termination_by c => c.rest.length

/-- Reads an identifier after blanks. -/
def identifier (c : Cursor) : Except Error (String × Cursor) :=
  let c := skipBlank c
  let (word, rest) := c.rest.span isIdentChar
  if word.isEmpty then .error (.expectedIdentifier c.offset)
  else .ok (String.ofList word, ⟨rest, c.offset + word.length⟩)

mutual
/-- Reads one expression; `fuel` exceeds the number of unread characters. -/
def readExpr : Nat → Cursor → Except Error (TypeExpr × Cursor)
  | 0, c => .error (.expectedIdentifier c.offset)
  | fuel + 1, c => do
    let (n, c) ← identifier c
    let c := skipBlank c
    match c.rest with
    | '[' :: rest =>
      let (first, c) ← readExpr fuel ⟨rest, c.offset + 1⟩
      readArgs fuel n [first] c
    | _ => pure (.ident n, c)

/-- Reads the arguments after the first one, up to the closing bracket. -/
def readArgs : Nat → String → List TypeExpr → Cursor → Except Error (TypeExpr × Cursor)
  | 0, n, _, _ => .error (.unterminated n)
  | fuel + 1, n, acc, c =>
    let c := skipBlank c
    match c.rest with
    | ',' :: rest => do
      let (arg, c) ← readExpr fuel ⟨rest, c.offset + 1⟩
      readArgs fuel n (acc ++ [arg]) c
    | ']' :: rest => pure (.apply n acc, ⟨rest, c.offset + 1⟩)
    | _ => .error (.unterminated n)
end

/-- Reads a whole text as one type expression, blanks allowed around it. -/
def parse (input : String) : Except Error TypeExpr := do
  let cs := input.toList
  let (e, c) ← readExpr (cs.length + 1) ⟨cs, 0⟩
  let c := skipBlank c
  match c.rest with
  | [] => pure e
  | found :: _ => .error (.unexpected found input)

end TypeExpr

end SyscallTables
