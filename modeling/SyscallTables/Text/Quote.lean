import SyscallTables.Text.GraphemeExtend
import SyscallTables.Text.Printable

namespace SyscallTables.Text

/-! Strings quoted for messages: between double quotes, with the quote, the backslash, tab,
line feed, carriage return and NUL written as backslash escapes, and the characters that
extend the one before them or do not print written as their code point in hexadecimal,
`\u\x7b...\x7d`. -/

/-- Whether a character is written by its code point. -/
def isHidden (c : Char) : Bool := isGraphemeExtend c || !isPrintable c

/-- The lowercase hexadecimal digits of a number, without leading zeros. -/
def hexDigits (n : Nat) : String :=
  String.ofList ((Nat.toDigits 16 n).map fun c => if c.isUpper then c.toLower else c)

/-- A character as it stands inside a quoted string. -/
def escapeChar (c : Char) : String :=
  if c = '\t' then "\\t"
  else if c = '\r' then "\\r"
  else if c = '\n' then "\\n"
  else if c = '\\' then "\\\\"
  else if c = '"' then "\\\""
  else if c.toNat = 0 then "\\0"
  else if isHidden c then "\\u\x7b" ++ hexDigits c.toNat ++ "\x7d"
  else c.toString

/-- A string between double quotes, escaped. -/
def quote (s : String) : String := "\"" ++ String.join (s.toList.map escapeChar) ++ "\""

end SyscallTables.Text
