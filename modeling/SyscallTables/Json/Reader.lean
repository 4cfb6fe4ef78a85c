import SyscallTables.Json.Value

namespace SyscallTables.Json

/-! Reading JSON text into a `Value`, byte by byte, with the error of the first fault and its
line and column. A fault found at the byte under the cursor is reported one byte further
(the column then counts that byte), a fault found after reading past it at the cursor itself.
Numbers without fraction or exponent stay integers while they fit 64 bits; all others are
doubles built as `significand · 10 ^ exponent` by one multiplication or division by a power
of ten (a scaled-down loop for tiny exponents). Nesting deeper than 127 arrays or objects is
refused. -/

/-- What went wrong while reading. -/
inductive ErrorCode
  | eofWhileParsingList
  | eofWhileParsingObject
  | eofWhileParsingString
  | eofWhileParsingValue
  | expectedColon
  | expectedListCommaOrEnd
  | expectedObjectCommaOrEnd
  | expectedSomeIdent
  | expectedSomeValue
  | invalidEscape
  | invalidNumber
  | numberOutOfRange
  | controlCharacterWhileParsingString
  | keyMustBeAString
  | loneLeadingSurrogateInHexEscape
  | trailingComma
  | trailingCharacters
  | unexpectedEndOfHexEscape
  | recursionLimitExceeded
  deriving DecidableEq, Repr

/-- The text of an error code. -/
def ErrorCode.message : ErrorCode → String
  | .eofWhileParsingList => "EOF while parsing a list"
  | .eofWhileParsingObject => "EOF while parsing an object"
  | .eofWhileParsingString => "EOF while parsing a string"
  | .eofWhileParsingValue => "EOF while parsing a value"
  | .expectedColon => "expected `:`"
  | .expectedListCommaOrEnd => "expected `,` or `]`"
  | .expectedObjectCommaOrEnd => "expected `,` or `\x7d`"
  | .expectedSomeIdent => "expected ident"
  | .expectedSomeValue => "expected value"
  | .invalidEscape => "invalid escape"
  | .invalidNumber => "invalid number"
  | .numberOutOfRange => "number out of range"
  | .controlCharacterWhileParsingString =>
    "control character (\\u0000-\\u001F) found while parsing a string"
  | .keyMustBeAString => "key must be a string"
  | .loneLeadingSurrogateInHexEscape => "lone leading surrogate in hex escape"
  | .trailingComma => "trailing comma"
  | .trailingCharacters => "trailing characters"
  | .unexpectedEndOfHexEscape => "unexpected end of hex escape"
  | .recursionLimitExceeded => "recursion limit exceeded"

/-- A reading error with the line and column it is reported at. -/
structure Error where
  code : ErrorCode
  line : Nat
  column : Nat
  deriving DecidableEq, Repr

/-- `message at line L column C`. -/
def Error.message (e : Error) : String :=
  e.code.message ++ " at line " ++ toString e.line ++ " column " ++ toString e.column

/-- A fault and the byte offset it is reported at. -/
abbrev Fault := ErrorCode × Nat

/-- The unread bytes and the offset of the first of them. -/
structure Cursor where
  rest : List UInt8
  index : Nat

namespace Cursor

/-- The cursor one byte further. -/
def next (c : Cursor) : Cursor := ⟨c.rest.tail, c.index + 1⟩

/-- The byte under the cursor. -/
def peek (c : Cursor) : Option UInt8 := c.rest.head?

/-- A fault at the cursor. -/
def fail (c : Cursor) (code : ErrorCode) : Except Fault α := .error (code, c.index)

/-- A fault at the byte under the cursor, counted as read. -/
def failPeeked (c : Cursor) (code : ErrorCode) : Except Fault α :=
  .error (code, if c.rest.isEmpty then c.index else c.index + 1)

/-- Steps over blanks: space, tab, line feed, carriage return. -/
def skipBlank : Cursor → Cursor
  | ⟨b :: rest, i⟩ =>
    if b = 32 || b = 9 || b = 10 || b = 13 then skipBlank ⟨rest, i + 1⟩ else ⟨b :: rest, i⟩
  | c => c
termination_by c => c.rest.length

end Cursor

/-- The value of a hexadecimal digit byte. -/
def hexDigit (b : UInt8) : Option Nat :=
  if 48 ≤ b && b ≤ 57 then some (b.toNat - 48)
  else if 97 ≤ b && b ≤ 102 then some (b.toNat - 87)
  else if 65 ≤ b && b ≤ 70 then some (b.toNat - 55)
  else none

/-- The number of four hexadecimal digit bytes. -/
def hex4 (a b c d : UInt8) : Option Nat := do
  pure ((← hexDigit a) * 4096 + (← hexDigit b) * 256 + (← hexDigit c) * 16 + (← hexDigit d))

/-- The UTF-8 bytes of a code point. -/
def codePointBytes (n : Nat) : List UInt8 := (Char.ofNat n).toString.toUTF8.toList

/-- Whether a code unit is a trailing surrogate. -/
def isTrailing (n : Nat) : Bool := 0xDC00 ≤ n && n ≤ 0xDFFF

/-- Whether a code unit is a leading surrogate. -/
def isLeading (n : Nat) : Bool := 0xD800 ≤ n && n ≤ 0xDBFF

/-- Reads string bytes after the opening quote up to the closing one; `acc` holds the bytes
read so far, reversed. -/
def readStringBytes (acc : List UInt8) (i : Nat) :
    List UInt8 → Except Fault (List UInt8 × Cursor)
  | [] => .error (.eofWhileParsingString, i)
  | 34 :: rest => .ok (acc.reverse, ⟨rest, i + 1⟩)
  | 92 :: rest =>
    match rest with
    | [] => .error (.eofWhileParsingString, i + 1)
    | 34 :: r => readStringBytes (34 :: acc) (i + 2) r
    | 92 :: r => readStringBytes (92 :: acc) (i + 2) r
    | 47 :: r => readStringBytes (47 :: acc) (i + 2) r
    | 98 :: r => readStringBytes (8 :: acc) (i + 2) r
    | 102 :: r => readStringBytes (12 :: acc) (i + 2) r
    | 110 :: r => readStringBytes (10 :: acc) (i + 2) r
    | 114 :: r => readStringBytes (13 :: acc) (i + 2) r
    | 116 :: r => readStringBytes (9 :: acc) (i + 2) r
    | 117 :: a :: b :: c :: d :: r =>
      let j := i + 6
      match hex4 a b c d with
      | none => .error (.invalidEscape, j)
      | some n =>
        if isTrailing n then .error (.loneLeadingSurrogateInHexEscape, j)
        else if !isLeading n then readStringBytes ((codePointBytes n).reverse ++ acc) j r
        else
          match r with
          | [] => .error (.eofWhileParsingString, j)
          | 92 :: r2 =>
            match r2 with
            | [] => .error (.eofWhileParsingString, j + 1)
            | 117 :: a2 :: b2 :: c2 :: d2 :: r3 =>
              let k := j + 6
              match hex4 a2 b2 c2 d2 with
              | none => .error (.invalidEscape, k)
              | some n2 =>
                if !isTrailing n2 then .error (.loneLeadingSurrogateInHexEscape, k)
                else
                  let cp := (n - 0xD800) * 1024 + (n2 - 0xDC00) + 0x10000
                  readStringBytes ((codePointBytes cp).reverse ++ acc) k r3
            | 117 :: r3 => .error (.eofWhileParsingString, j + 2 + r3.length)
            | _ :: _ => .error (.unexpectedEndOfHexEscape, j + 2)
          | _ :: _ => .error (.unexpectedEndOfHexEscape, j + 1)
    | 117 :: r => .error (.eofWhileParsingString, i + 2 + r.length)
    | _ :: _ => .error (.invalidEscape, i + 2)
  | b :: rest =>
    if b < 32 then .error (.controlCharacterWhileParsingString, i + 1)
    else readStringBytes (b :: acc) (i + 1) rest

/-- Reads a string after its opening quote. -/
def readString (c : Cursor) : Except Fault (String × Cursor) := do
  let (bytes, c) ← readStringBytes [] c.index c.rest
  pure ((String.fromUTF8? ⟨bytes.toArray⟩).getD "", c)

/-- The powers of ten from `10 ^ 0` to `10 ^ 308` as doubles. -/
def powersOfTen : Array Float :=
  (List.range 309).toArray.map fun k => Float.ofScientific 1 false k

/-- `significand · 10 ^ exponent` as a double, by one multiplication or division; tiny
exponents are first brought into range by dividing by `10 ^ 308`. -/
def fromParts (c : Cursor) (positive : Bool) (significand : Nat) (exponent : Int) :
    Except Fault Float :=
  let rec go : Nat → Float → Int → Except Fault Float
    | 0, f, _ => .ok f
    | fuel + 1, f, e =>
      if e.natAbs ≤ 308 then
        let pow := powersOfTen.getD e.natAbs 1
        if e ≥ 0 then
          let g := f * pow
          if g.isInf then c.fail .numberOutOfRange else .ok g
        else .ok (f / pow)
      else if f == 0 then .ok f
      else if e ≥ 0 then c.fail .numberOutOfRange
      else go fuel (f / 1e308) (e + 308)
  (go 16 (UInt64.ofNat significand).toFloat exponent).map fun f => if positive then f else -f

/-- Whether `significand · 10 + digit` exceeds 64 bits. -/
def overflows (significand digit : Nat) : Bool := significand * 10 + digit ≥ Nat.pow 2 64

/-- Whether a byte is an ASCII digit. -/
def isDigit (b : UInt8) : Bool := 48 ≤ b && b ≤ 57

/-- Steps over ASCII digits. -/
def skipDigits : Cursor → Cursor
  | ⟨b :: rest, i⟩ => if isDigit b then skipDigits ⟨rest, i + 1⟩ else ⟨b :: rest, i⟩
  | c => c
termination_by c => c.rest.length

/-- Whether an exponent `e · 10 + d` exceeds the 32-bit signed range. -/
def exponentOverflows (e d : Nat) : Bool := e * 10 + d > 2147483647

/-- Clamps to the 32-bit signed range. -/
def saturate (e : Int) : Int := max (-2147483648) (min 2147483647 e)

/-- Reads the digits of an exponent after its first digit. -/
def readExponentDigits (positive positiveExp : Bool) (significand : Nat) (start : Int)
    (e : Nat) : Cursor → Except Fault (Float × Cursor)
  | ⟨b :: rest, i⟩ =>
    if isDigit b then
      let d := b.toNat - 48
      if exponentOverflows e d then
        if significand ≠ 0 && positiveExp then Cursor.fail ⟨rest, i + 1⟩ .numberOutOfRange
        else .ok (if positive then 0.0 else -0.0, skipDigits ⟨rest, i + 1⟩)
      else readExponentDigits positive positiveExp significand start (e * 10 + d) ⟨rest, i + 1⟩
    else
      let final := if positiveExp then saturate (start + e) else saturate (start - e)
      (fromParts ⟨b :: rest, i⟩ positive significand final).map (·, ⟨b :: rest, i⟩)
  | c =>
    let final := if positiveExp then saturate (start + e) else saturate (start - e)
    (fromParts c positive significand final).map (·, c)
termination_by c => c.rest.length

/-- Reads an exponent at its `e` or `E`. -/
def readExponent (positive : Bool) (significand : Nat) (start : Int) (c : Cursor) :
    Except Fault (Float × Cursor) :=
  let c := c.next
  let (positiveExp, c) := match c.peek with
    | some 43 => (true, c.next)
    | some 45 => (false, c.next)
    | _ => (true, c)
  match c.peek with
  | none => c.fail .eofWhileParsingValue
  | some b =>
    if isDigit b then
      readExponentDigits positive positiveExp significand start (b.toNat - 48) c.next
    else c.next.fail .invalidNumber

/-- After an overflowing fraction digit: the remaining digits are dropped. -/
def afterOverflow (positive : Bool) (significand : Nat) (exponent : Int) (c : Cursor) :
    Except Fault (Float × Cursor) :=
  let c := skipDigits c
  match c.peek with
  | some 101 | some 69 => readExponent positive significand exponent c
  | _ => (fromParts c positive significand exponent).map (·, c)

/-- Reads fraction digits; `count` digits have been read so far. -/
def readFractionDigits (positive : Bool) (significand : Nat) (before : Int) (count : Nat) :
    Cursor → Except Fault (Float × Cursor)
  | ⟨b :: rest, i⟩ =>
    if isDigit b then
      let d := b.toNat - 48
      if overflows significand d then
        afterOverflow positive significand (before - count) ⟨b :: rest, i⟩
      else readFractionDigits positive (significand * 10 + d) before (count + 1) ⟨rest, i + 1⟩
    else if count = 0 then Cursor.failPeeked ⟨b :: rest, i⟩ .invalidNumber
    else if b = 101 || b = 69 then
      readExponent positive significand (before - count) ⟨b :: rest, i⟩
    else
      let c : Cursor := ⟨b :: rest, i⟩
      (fromParts c positive significand (before - count)).map (·, c)
  | c =>
    if count = 0 then c.failPeeked .eofWhileParsingValue
    else (fromParts c positive significand (before - count)).map (·, c)
termination_by c => c.rest.length

/-- Reads a fraction at its `.`. -/
def readFraction (positive : Bool) (significand : Nat) (before : Int) (c : Cursor) :
    Except Fault (Float × Cursor) :=
  readFractionDigits positive significand before 0 c.next

/-- Reads the digits of an integer too long for 64 bits; each counts one power of ten. -/
def readLongInteger (positive : Bool) (significand : Nat) (extra : Nat) :
    Cursor → Except Fault (Float × Cursor)
  | ⟨b :: rest, i⟩ =>
    if isDigit b then readLongInteger positive significand (extra + 1) ⟨rest, i + 1⟩
    else if b = 46 then readFraction positive significand extra ⟨b :: rest, i⟩
    else if b = 101 || b = 69 then readExponent positive significand extra ⟨b :: rest, i⟩
    else (fromParts ⟨b :: rest, i⟩ positive significand extra).map (·, ⟨b :: rest, i⟩)
  | c => (fromParts c positive significand extra).map (·, c)
termination_by c => c.rest.length

/-- The number of an integer part with no fraction or exponent. -/
def integerNumber (positive : Bool) (significand : Nat) : Number :=
  if positive then .unsigned significand
  else if significand = 0 then .double (-0.0)
  else if significand ≤ Nat.pow 2 63 then .negative (-(significand : Int))
  else .double (-(UInt64.ofNat significand).toFloat)

/-- What follows an integer part that fits 64 bits. -/
def afterInteger (positive : Bool) (significand : Nat) (c : Cursor) :
    Except Fault (Number × Cursor) :=
  match c.peek with
  | some 46 => (readFraction positive significand 0 c).map fun (f, c) => (.double f, c)
  | some 101 | some 69 => (readExponent positive significand 0 c).map fun (f, c) => (.double f, c)
  | _ => .ok (integerNumber positive significand, c)

/-- Reads integer digits after the first non-zero one. -/
def readIntegerDigits (positive : Bool) (significand : Nat) :
    Cursor → Except Fault (Number × Cursor)
  | ⟨b :: rest, i⟩ =>
    if isDigit b then
      let d := b.toNat - 48
      if overflows significand d then
        (readLongInteger positive significand 0 ⟨b :: rest, i⟩).map fun (f, c) => (.double f, c)
      else readIntegerDigits positive (significand * 10 + d) ⟨rest, i + 1⟩
    else afterInteger positive significand ⟨b :: rest, i⟩
  | c => afterInteger positive significand c
termination_by c => c.rest.length

/-- Reads a number after its optional minus sign. -/
def readNumber (positive : Bool) (c : Cursor) : Except Fault (Number × Cursor) :=
  match c.peek with
  | none => c.fail .eofWhileParsingValue
  | some 48 =>
    let c := c.next
    match c.peek with
    | some b => if isDigit b then c.failPeeked .invalidNumber else afterInteger positive 0 c
    | none => afterInteger positive 0 c
  | some b =>
    if isDigit b then readIntegerDigits positive (b.toNat - 48) c.next
    else c.next.fail .invalidNumber

/-- Reads the rest of a literal word such as `ull` after `n`. -/
def readWord : List UInt8 → Cursor → Except Fault Cursor
  | [], c => .ok c
  | w :: ws, c =>
    match c.peek with
    | none => c.fail .eofWhileParsingValue
    | some b => if b = w then readWord ws c.next else c.next.fail .expectedSomeIdent

mutual
/-- Reads one value after blanks; `depth` counts the nestings still allowed. -/
def readValue : Nat → Nat → Cursor → Except Fault (Value × Cursor)
  | 0, _, c => c.fail .eofWhileParsingValue
  | fuel + 1, depth, c =>
    let c := c.skipBlank
    match c.peek with
    | none => c.failPeeked .eofWhileParsingValue
    | some 110 => (readWord [117, 108, 108] c.next).map (.null, ·)
    | some 116 => (readWord [114, 117, 101] c.next).map (.bool true, ·)
    | some 102 => (readWord [97, 108, 115, 101] c.next).map (.bool false, ·)
    | some 45 => (readNumber false c.next).map fun (n, c) => (.number n, c)
    | some 34 => (readString c.next).map fun (s, c) => (.string s, c)
    | some 91 =>
      if depth ≤ 1 then c.failPeeked .recursionLimitExceeded
      else do
        let (items, c) ← readItems fuel (depth - 1) true [] c.next
        pure (.array items, c)
    | some 123 =>
      if depth ≤ 1 then c.failPeeked .recursionLimitExceeded
      else do
        let (members, c) ← readMembers fuel (depth - 1) true [] c.next
        pure (.object members, c)
    | some b =>
      if isDigit b then (readNumber true c).map fun (n, c) => (.number n, c)
      else c.failPeeked .expectedSomeValue

/-- Reads array items up to and including the closing bracket. -/
def readItems :
    Nat → Nat → Bool → List Value → Cursor → Except Fault (List Value × Cursor)
  | 0, _, _, _, c => c.fail .eofWhileParsingList
  | fuel + 1, depth, first, acc, c =>
    let c := c.skipBlank
    match c.peek with
    | none => c.failPeeked .eofWhileParsingList
    | some 93 => .ok (acc.reverse, c.next)
    | some 44 =>
      if first then do
        let (v, c) ← readValue fuel depth c
        readItems fuel depth false (v :: acc) c
      else
        let c := c.next.skipBlank
        match c.peek with
        | some 93 => c.failPeeked .trailingComma
        | none => c.failPeeked .eofWhileParsingValue
        | some _ => do
          let (v, c) ← readValue fuel depth c
          readItems fuel depth false (v :: acc) c
    | some _ =>
      if first then do
        let (v, c) ← readValue fuel depth c
        readItems fuel depth false (v :: acc) c
      else c.failPeeked .expectedListCommaOrEnd

/-- Reads object members up to and including the closing brace. -/
def readMembers : Nat → Nat → Bool → List (String × Value) → Cursor →
    Except Fault (List (String × Value) × Cursor)
  | 0, _, _, _, c => c.fail .eofWhileParsingObject
  | fuel + 1, depth, first, acc, c =>
    let c := c.skipBlank
    let keyed : Except Fault Cursor :=
      match c.peek with
      | none => c.failPeeked .eofWhileParsingObject
      | some 44 => if first then .ok c else .ok c.next.skipBlank
      | some b => if first || b = 125 then .ok c else c.failPeeked .expectedObjectCommaOrEnd
    match c.peek with
    | some 125 => .ok (acc, c.next)
    | _ => do
      let c ← keyed
      match c.peek with
      | some 34 => do
        let (key, c) ← readString c.next
        let c := c.skipBlank
        match c.peek with
        | some 58 => do
          let (v, c) ← readValue fuel depth c.next
          readMembers fuel depth false (insertMember key v acc) c
        | some _ => c.failPeeked .expectedColon
        | none => c.failPeeked .eofWhileParsingObject
      | some 125 => c.failPeeked .trailingComma
      | some _ => c.failPeeked .keyMustBeAString
      | none => c.failPeeked .eofWhileParsingValue
end

/-- Line and column of a byte offset: the line counts newlines before it, the column the bytes
since the last of them. -/
def lineColumn (source : List UInt8) (offset : Nat) : Nat × Nat :=
  let before := source.take offset
  (before.count 10 + 1, (before.reverse.takeWhile (· != 10)).length)

/-- Reads a whole text as one JSON value, blanks allowed around it. -/
def parse (text : String) : Except Error Value :=
  let bytes := text.toUTF8.toList
  let result : Except Fault Value := do
    let (v, c) ← readValue (2 * bytes.length + 2) 128 ⟨bytes, 0⟩
    let c := c.skipBlank
    if c.rest.isEmpty then pure v else c.failPeeked .trailingCharacters
  match result with
  | .ok v => .ok v
  | .error (code, offset) =>
    let (line, column) := lineColumn bytes offset
    .error ⟨code, line, column⟩

end SyscallTables.Json
