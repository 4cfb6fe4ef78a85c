namespace SyscallTables.Text

/-! Blank characters. Two classes are used: the ASCII blanks of type expressions (space, tab,
line feed, form feed, carriage return, without the vertical tab) and the Unicode `White_Space`
property, by which constant-file lines are trimmed. -/

/-- Space, tab, line feed, form feed and carriage return. -/
def isAsciiBlank (c : Char) : Bool :=
  c = ' ' || c = '\t' || c = '\n' || c = '\x0c' || c = '\r'

/-- The code points of the Unicode `White_Space` property. -/
def isWhiteSpace (c : Char) : Bool :=
  let n := c.toNat
  (0x09 ≤ n && n ≤ 0x0D) || n = 0x20 || n = 0x85 || n = 0xA0 || n = 0x1680 ||
    (0x2000 ≤ n && n ≤ 0x200A) || n = 0x2028 || n = 0x2029 || n = 0x202F || n = 0x205F ||
    n = 0x3000

/-- Drops `White_Space` characters from the front. -/
def trimStartChars (cs : List Char) : List Char := cs.dropWhile isWhiteSpace

/-- Drops `White_Space` characters from both ends. -/
def trimChars (cs : List Char) : List Char :=
  (trimStartChars (trimStartChars cs).reverse).reverse

/-- A string without its leading and trailing `White_Space` characters. -/
def trim (s : String) : String := String.ofList (trimChars s.toList)

/-- A string without its leading `White_Space` characters. -/
def trimStart (s : String) : String := String.ofList (trimStartChars s.toList)

end SyscallTables.Text
