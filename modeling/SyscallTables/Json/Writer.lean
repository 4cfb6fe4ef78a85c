import SyscallTables.Json.Value
import SyscallTables.Decimal.Shortest
import SyscallTables.Json.Reader

namespace SyscallTables.Json

/-! Writing JSON text. Strings escape the quote, the backslash and control characters (the
short forms `\b \t \n \f \r`, otherwise `\u00xx` in lowercase hex) and keep every other
character as it is. Doubles are written with the fewest digits that read back, positionally
while the integer digits number from -4 to 16 and with an exponent `e+N`/`e-N` otherwise,
whole numbers ending in `.0`. The pretty form indents by two spaces per level and writes
empty arrays and objects as `[]` and `{}`. -/

/-- How doubles are written in JSON text. -/
def doubleLayout : Decimal.Layout :=
  { positionalAbove := some (-5)
    positionalUpTo := some 16
    pointZero := true
    plusExponent := true
    zero := "0.0" }

/-- The lowercase hexadecimal digit of a number below 16. -/
def hexChar (n : Nat) : Char := if n < 10 then Char.ofNat (48 + n) else Char.ofNat (87 + n)

/-- The escaped form of one character. -/
def escapeChar (c : Char) : List Char :=
  if c = '"' then ['\\', '"']
  else if c = '\\' then ['\\', '\\']
  else if c = '\n' then ['\\', 'n']
  else if c = '\r' then ['\\', 'r']
  else if c = '\t' then ['\\', 't']
  else if c = '\x08' then ['\\', 'b']
  else if c = '\x0c' then ['\\', 'f']
  else if c.toNat < 32 then ['\\', 'u', '0', '0', hexChar (c.toNat / 16), hexChar (c.toNat % 16)]
  else [c]

/-- A string in quotes, escaped. -/
def quote (s : String) : String :=
  String.ofList ('"' :: (s.toList.flatMap escapeChar ++ ['"']))

/-- The text of a number. -/
def Number.render : Number → String
  | .unsigned n => toString n
  | .negative n => toString n
  | .double f =>
    if f.isNaN || f.isInf then "null" else Decimal.renderFinite doubleLayout f

mutual
/-- The compact text of a value: no blanks at all. -/
def Value.compact : Value → String
  | .null => "null"
  | .bool b => if b then "true" else "false"
  | .number n => n.render
  | .string s => quote s
  | .array items => "[" ++ compactItems items ++ "]"
  | .object members => "\x7b" ++ compactMembers members ++ "\x7d"

/-- Compact items separated by commas. -/
def compactItems : List Value → String
  | [] => ""
  | [v] => v.compact
  | v :: rest => v.compact ++ "," ++ compactItems rest

/-- Compact members separated by commas. -/
def compactMembers : List (String × Value) → String
  | [] => ""
  | [(k, v)] => quote k ++ ":" ++ v.compact
  | (k, v) :: rest => quote k ++ ":" ++ v.compact ++ "," ++ compactMembers rest
end

/-- Two spaces per level. -/
def indent (level : Nat) : String := String.ofList (List.replicate (2 * level) ' ')

mutual
/-- The pretty text of a value at an indentation level. -/
def Value.pretty (level : Nat) : Value → String
  | .null => "null"
  | .bool b => if b then "true" else "false"
  | .number n => n.render
  | .string s => quote s
  | .array [] => "[]"
  | .array (v :: rest) =>
    "[\n" ++ prettyItems (level + 1) (v :: rest) ++ "\n" ++ indent level ++ "]"
  | .object [] => "\x7b\x7d"
  | .object (m :: rest) =>
    "\x7b\n" ++ prettyMembers (level + 1) (m :: rest) ++ "\n" ++ indent level ++ "\x7d"

/-- Pretty items, one per line. -/
def prettyItems (level : Nat) : List Value → String
  | [] => ""
  | [v] => indent level ++ v.pretty level
  | v :: rest => indent level ++ v.pretty level ++ ",\n" ++ prettyItems level rest

/-- Pretty members, one per line. -/
def prettyMembers (level : Nat) : List (String × Value) → String
  | [] => ""
  | [(k, v)] => indent level ++ quote k ++ ": " ++ v.pretty level
  | (k, v) :: rest =>
    indent level ++ quote k ++ ": " ++ v.pretty level ++ ",\n" ++ prettyMembers level rest
end

/-- The canonical text of a JSON text: read, written pretty with sorted keys, and ended by a
line feed. -/
def canonicalize (raw : String) : Except Error String := do
  let v ← parse raw
  pure (v.pretty 0 ++ "\n")

end SyscallTables.Json
