import SyscallTables.Toml.Document

namespace SyscallTables.Toml

/-! Reading TOML text. The reader walks the bytes with a cursor; a failure records where the
cursor stood, the contexts it was reported in (the first label names what was being read,
the expectations list what would have been accepted) and a cause. A failure is either soft,
when an alternative may still be tried from the same place, or hard, once the text is known to
be of a given form. Each rule below states where its cursor stops when it fails; only a few
rules (checks of a finished token, such as a number in range) move it back to the token's
start. -/

/-- What would have been accepted at a failure. -/
inductive Expected
  | char (c : Char)
  | literal (s : String)
  | description (s : String)
  deriving DecidableEq, Repr

/-- The text of an expectation. -/
def Expected.render : Expected → String
  | .char '\n' => "newline"
  | .char '`' => "'`'"
  | .char c => "`" ++ c.toString ++ "`"
  | .literal s => "`" ++ s ++ "`"
  | .description s => s

/-- A context a failure is reported in. -/
inductive Context
  | label (s : String)
  | expected (e : Expected)
  deriving DecidableEq, Repr

/-- A failure of the reader. -/
structure Failure where
  offset : Nat
  contexts : List Context := []
  cause : Option String := none
  hard : Bool := false
  deriving Repr

/-- The message of a failure: `invalid <label>`, then `expected <a>, <b>`, then the cause, one
per line. -/
def Failure.message (f : Failure) : String :=
  let label := f.contexts.findSome? fun
    | .label s => some s
    | _ => none
  let expected := f.contexts.filterMap fun
    | .expected e => some e.render
    | _ => none
  let parts :=
    (label.map ("invalid " ++ ·)).toList ++
    (if expected.isEmpty then [] else ["expected " ++ ", ".intercalate expected]) ++
    f.cause.toList
  "\n".intercalate parts

/-- The unread bytes and the offset of the first. -/
structure Cursor where
  rest : List UInt8
  offset : Nat
  deriving Inhabited

namespace Cursor

/-- The cursor `n` bytes further. -/
def advance (c : Cursor) (n : Nat) : Cursor := ⟨c.rest.drop n, c.offset + n⟩

/-- The byte under the cursor. -/
def peek (c : Cursor) : Option UInt8 := c.rest.head?

/-- A soft failure here. -/
def soft (c : Cursor) : Failure := { offset := c.offset }

/-- Whether the unread bytes start with the given ones. -/
def startsWith (c : Cursor) (bs : List UInt8) : Bool := bs.isPrefixOf c.rest

end Cursor

/-- Adds contexts to a failure. -/
def Failure.within (f : Failure) (cs : List Context) : Failure :=
  { f with contexts := f.contexts ++ cs }

/-- Adds contexts to a failing result. -/
def within (r : Except Failure α) (cs : List Context) : Except Failure α :=
  match r with
  | .error f => .error (f.within cs)
  | ok => ok

/-- Makes a failure hard. -/
def hardened (r : Except Failure α) : Except Failure α :=
  match r with
  | .error f => .error { f with hard := true }
  | ok => ok

/-- Tries `p`, then `q` from the same place if `p` failed softly. -/
def orElse (p q : Cursor → Except Failure (α × Cursor)) (c : Cursor) :
    Except Failure (α × Cursor) :=
  match p c with
  | .error f => if f.hard then .error f else q c
  | ok => ok

/-- `some` of what `p` reads, or `none` at the same place if `p` failed softly. -/
def optional (p : Cursor → Except Failure (α × Cursor)) (c : Cursor) :
    Except Failure (Option α × Cursor) :=
  match p c with
  | .ok (a, c') => .ok (some a, c')
  | .error f => if f.hard then .error f else .ok (none, c)

/-- The text of bytes. -/
def bytesText (bs : List UInt8) : String := (String.fromUTF8? ⟨bs.toArray⟩).getD ""

/-- The bytes between two cursors. -/
def between (a b : Cursor) : List UInt8 := a.rest.take (b.offset - a.offset)

/-! ## Blanks, comments and line ends -/

/-- Space or tab. -/
def isBlank (b : UInt8) : Bool := b = 32 || b = 9

/-- A byte that may stand in a comment. -/
def isCommentByte (b : UInt8) : Bool := b = 9 || (32 ≤ b && b ≤ 126) || 128 ≤ b

/-- Steps over spaces and tabs. -/
def skipBlanks (c : Cursor) : Cursor :=
  let n := (c.rest.takeWhile isBlank).length
  c.advance n

/-- Steps over a comment at `#`. -/
def skipComment (c : Cursor) : Cursor :=
  let n := ((c.rest.drop 1).takeWhile isCommentByte).length
  c.advance (n + 1)

/-- A line feed, or a carriage return and a line feed. -/
def newline (c : Cursor) : Except Failure Cursor :=
  match c.rest with
  | 10 :: _ => .ok (c.advance 1)
  | 13 :: 10 :: _ => .ok (c.advance 2)
  | _ :: _ => .error (c.advance 1).soft
  | [] => .error c.soft

/-- A line end or the end of the text. -/
def lineEnding (c : Cursor) : Except Failure Cursor :=
  match newline c with
  | .ok c' => .ok c'
  | .error _ => if c.rest.isEmpty then .ok c else .error c.soft

/-- Blanks, an optional comment and a line end. -/
def lineTrailing (c : Cursor) : Except Failure Cursor :=
  let c := skipBlanks c
  let c := if c.peek = some 35 then skipComment c else c
  lineEnding c

/-- Blanks, comments and line ends, as many as there are. -/
def skipBlankLines : Nat → Cursor → Except Failure Cursor
  | 0, c => .ok c
  | fuel + 1, c =>
    let c := skipBlanks c
    match c.peek with
    | some 35 => do
      let c' ← newline (skipComment c)
      skipBlankLines fuel c'
    | some 10 | some 13 => do
      let c' ← newline c
      skipBlankLines fuel c'
    | _ => .ok c

/-! ## Strings -/

/-- A byte that may stand unescaped in a basic string. -/
def isBasicByte (b : UInt8) : Bool :=
  isBlank b || b = 0x21 || (0x23 ≤ b && b ≤ 0x5B) || (0x5D ≤ b && b ≤ 0x7E) || 0x80 ≤ b

/-- A byte that may stand in a literal string. -/
def isLiteralByte (b : UInt8) : Bool :=
  b = 9 || (0x20 ≤ b && b ≤ 0x26) || (0x28 ≤ b && b ≤ 0x7E) || 0x80 ≤ b

/-- Whether a byte is a hexadecimal digit. -/
def isHexByte (b : UInt8) : Bool :=
  (48 ≤ b && b ≤ 57) || (97 ≤ b && b ≤ 102) || (65 ≤ b && b ≤ 70)

/-- The value of hexadecimal digit bytes. -/
def hexValue (bs : List UInt8) : Nat :=
  bs.foldl (fun acc b =>
    let d := if b ≤ 57 then b.toNat - 48 else if b ≤ 70 then b.toNat - 55 else b.toNat - 87
    acc * 16 + d) 0

/-- Whether a number is a Unicode scalar value. -/
def isScalar (n : Nat) : Bool := n < 0xD800 || (0xDFFF < n && n ≤ 0x10FFFF)

/-- A hexadecimal escape of `n` digits, after its `u` or `U`. -/
def hexEscape (n : Nat) (label : String) (c : Cursor) : Except Failure (List UInt8 × Cursor) :=
  let digits := (c.rest.take n).takeWhile isHexByte
  if digits.length < n then .error { offset := c.offset, contexts := [.label label], hard := true }
  else
    let v := hexValue digits
    if isScalar v then .ok ((Char.ofNat v).toString.toUTF8.toList, c.advance n)
    else .error { offset := c.offset, contexts := [.label label],
                  cause := some "value is out of range", hard := true }

/-- The expectations after a backslash that starts no escape. -/
def escapeExpected : List Context :=
  .label "escape sequence" :: ['b', 'f', 'n', 'r', 't', 'u', 'U', '\\', '"'].map
    fun ch => .expected (.char ch)

/-- An escape after its backslash. -/
def escapeSequence (c : Cursor) : Except Failure (List UInt8 × Cursor) :=
  match c.rest with
  | [] => .error c.soft
  | b :: _ =>
    let c' := c.advance 1
    if b = 98 then .ok ([8], c')
    else if b = 102 then .ok ([12], c')
    else if b = 110 then .ok ([10], c')
    else if b = 114 then .ok ([13], c')
    else if b = 116 then .ok ([9], c')
    else if b = 92 then .ok ([92], c')
    else if b = 34 then .ok ([34], c')
    else if b = 117 then hexEscape 4 "unicode 4-digit hex code" c'
    else if b = 85 then hexEscape 8 "unicode 8-digit hex code" c'
    else .error { offset := c'.offset, contexts := escapeExpected, hard := true }

/-- The characters of a basic string up to its end; stops at the first byte that is neither
plain nor an escape. -/
def basicChars (acc : List UInt8) : Nat → Cursor → Except Failure (List UInt8 × Cursor)
  | 0, c => .ok (acc, c)
  | fuel + 1, c =>
    match c.rest with
    | b :: _ =>
      if isBasicByte b then
        let run := c.rest.takeWhile isBasicByte
        basicChars (acc ++ run) fuel (c.advance run.length)
      else if b = 92 then
        match escapeSequence (c.advance 1) with
        | .ok (bs, c') => basicChars (acc ++ bs) fuel c'
        | .error f => if f.hard then .error f else .ok (acc, c)
      else .ok (acc, c)
    | [] => .ok (acc, c)

/-- A basic string at its quote. -/
def basicString (c : Cursor) : Except Failure (String × Cursor) := do
  if c.peek != some 34 then throw c.soft
  let (bs, c) ← basicChars [] (c.rest.length + 1) (c.advance 1)
  if c.peek = some 34 then pure (bytesText bs, c.advance 1)
  else throw { offset := c.offset, contexts := [.label "basic string"], hard := true }

/-- A literal string at its apostrophe. -/
def literalString (c : Cursor) : Except Failure (String × Cursor) :=
  if c.peek != some 39 then .error c.soft else
  let c := c.advance 1
  let body := c.rest.takeWhile isLiteralByte
  let c := c.advance body.length
  if c.peek = some 39 then .ok (bytesText body, c.advance 1)
  else .error { offset := c.offset, contexts := [.label "literal string"], hard := true }

/-- One or two quote bytes `q` followed by a byte for which `term` holds. -/
def quotes (q : UInt8) (term : Cursor → Bool) (c : Cursor) : Option (List UInt8 × Cursor) :=
  if c.startsWith [q, q] && term (c.advance 2) then some ([q, q], c.advance 2)
  else if c.startsWith [q] && term (c.advance 1) then some ([q], c.advance 1)
  else none

/-- A backslash, blanks and line ends, removed from a multi-line basic string. -/
def escapedNewline (c : Cursor) : Option Cursor :=
  let rec go : Nat → Cursor → Bool → Option Cursor
    | 0, c, any => if any then some c else none
    | fuel + 1, c, any =>
      if c.peek = some 92 then
        let c1 := skipBlanks (c.advance 1)
        match newline c1 with
        | .ok c2 =>
          let rec more : Nat → Cursor → Cursor
            | 0, c => c
            | f + 1, c =>
              match c.peek with
              | some b =>
                if isBlank b then more f (c.advance 1)
                else match newline c with
                  | .ok c' => more f c'
                  | .error _ => c
              | none => c
          go fuel (more (c2.rest.length + 1) c2) true
        | .error _ => if any then some c else none
      else if any then some c else none
  go (c.rest.length + 1) c false

/-- One piece of a multi-line basic string's content. -/
def mlBasicContent (c : Cursor) : Except Failure (Option (List UInt8 × Cursor)) :=
  match c.rest with
  | [] => .ok none
  | b :: _ =>
    if isBasicByte b then
      let run := c.rest.takeWhile isBasicByte
      .ok (some (run, c.advance run.length))
    else
      match escapedNewline c with
      | some c' => .ok (some ([], c'))
      | none =>
        if b = 92 then
          match escapeSequence (c.advance 1) with
          | .ok (bs, c') => .ok (some (bs, c'))
          | .error f => if f.hard then .error f else .ok none
        else
          match newline c with
          | .ok c' => .ok (some ([10], c'))
          | .error _ => .ok none

/-- Content pieces of a multi-line basic string, as many as there are. -/
def mlBasicContents (acc : List UInt8) : Nat → Cursor → Except Failure (List UInt8 × Cursor)
  | 0, c => .ok (acc, c)
  | fuel + 1, c => do
    match ← mlBasicContent c with
    | some (bs, c') => mlBasicContents (acc ++ bs) fuel c'
    | none => pure (acc, c)

/-- The body of a multi-line basic string. -/
def mlBasicBody (acc : List UInt8) : Nat → Cursor → Except Failure (List UInt8 × Cursor)
  | 0, c => .ok (acc, c)
  | fuel + 1, c => do
    let (acc, c) ← mlBasicContents acc (c.rest.length + 1) c
    match quotes 34 (fun d => d.peek.isSome && d.peek != some 34) c with
    | some (q, c') =>
      match ← mlBasicContent c' with
      | some (bs, c'') => mlBasicBody (acc ++ q ++ bs) fuel c''
      | none => pure (acc, c')
    | none =>
      match quotes 34 (fun d => d.startsWith [34, 34, 34]) c with
      | some (q, c') => pure (acc ++ q, c')
      | none => pure (acc, c)

/-- A multi-line basic string at its three quotes. -/
def mlBasicString (c : Cursor) : Except Failure (String × Cursor) :=
  if !c.startsWith [34, 34, 34] then .error c.soft
  else
    let c := c.advance 3
    let c := match newline c with
      | .ok c' => c'
      | .error _ => c
    match mlBasicBody [] (c.rest.length + 1) c with
    | .error f => .error ({ f with hard := true }.within [.label "multiline basic string"])
    | .ok (bs, c) =>
      if c.startsWith [34, 34, 34] then .ok (bytesText bs, c.advance 3)
      else .error { offset := c.offset, contexts := [.label "multiline basic string"],
                    hard := true }

/-- A byte of a multi-line literal string's content, or a line end. -/
def mlLiteralContent (c : Cursor) : Option Cursor :=
  match c.rest with
  | b :: _ =>
    if isLiteralByte b then some (c.advance 1)
    else match newline c with
      | .ok c' => some c'
      | .error _ => none
  | [] => none

/-- Content of a multi-line literal string, as much as there is. -/
def mlLiteralContents : Nat → Cursor → Cursor
  | 0, c => c
  | fuel + 1, c =>
    match mlLiteralContent c with
    | some c' => mlLiteralContents fuel c'
    | none => c

/-- The body of a multi-line literal string: content, then quotes each followed by more
content, then up to two quotes before the end. -/
def mlLiteralBody : Nat → Cursor → Cursor
  | 0, c => c
  | fuel + 1, c =>
    let c := mlLiteralContents (c.rest.length + 1) c
    match quotes 39 (fun d => d.peek.isSome && d.peek != some 39) c with
    | some (_, c') =>
      match mlLiteralContent c' with
      | some _ => mlLiteralBody fuel c'
      | none => c
    | none => c

/-- Replaces carriage return and line feed pairs by line feeds. -/
def normalizeNewlines : List UInt8 → List UInt8
  | 13 :: 10 :: rest => 10 :: normalizeNewlines rest
  | b :: rest => b :: normalizeNewlines rest
  | [] => []

/-- A multi-line literal string at its three apostrophes. -/
def mlLiteralString (c : Cursor) : Except Failure (String × Cursor) :=
  if !c.startsWith [39, 39, 39] then .error c.soft
  else
    let c := c.advance 3
    let c := match newline c with
      | .ok c' => c'
      | .error _ => c
    let start := c
    let c := mlLiteralBody (c.rest.length + 1) c
    let c := match quotes 39 (fun d => d.startsWith [39, 39, 39]) c with
      | some (_, c') => c'
      | none => c
    let body := start.rest.take (c.offset - start.offset)
    if c.startsWith [39, 39, 39] then .ok (bytesText (normalizeNewlines body), c.advance 3)
    else .error { offset := c.offset, contexts := [.label "multiline literal string"],
                  hard := true }

/-- A string of any of the four kinds. -/
def string (c : Cursor) : Except Failure (String × Cursor) :=
  orElse mlBasicString (orElse basicString (orElse mlLiteralString literalString)) c

/-! ## Keys -/

/-- A bare key. -/
def unquotedKey (c : Cursor) : Except Failure (String × Cursor) :=
  let run := c.rest.takeWhile fun b =>
    (48 ≤ b && b ≤ 57) || (65 ≤ b && b ≤ 90) || (97 ≤ b && b ≤ 122) || b = 45 || b = 95
  if run.isEmpty then .error c.soft else .ok (bytesText run, c.advance run.length)

/-- A bare or quoted key, with its span. -/
def simpleKey (c : Cursor) : Except Failure (Key × Cursor) := do
  let (name, c') ← match c.peek with
    | some 34 => basicString c
    | some 39 => literalString c
    | some _ => unquotedKey c
    | none => .error c.soft
  pure (⟨name, bytesText (between c c'), ⟨c.offset, c'.offset⟩⟩, c')

/-- The deepest a dotted key or a nesting of values may go. -/
def recursionLimit : Nat := 80

/-- A key part with the blanks around it. -/
def keyPart (c : Cursor) : Except Failure (Key × Cursor) := do
  let (k, c) ← simpleKey (skipBlanks c)
  pure (k, skipBlanks c)

/-- Further dotted parts of a key. -/
def keyParts (acc : List Key) : Nat → Cursor → Except Failure (List Key × Cursor)
  | 0, c => .ok (acc, c)
  | fuel + 1, c =>
    if c.peek = some 46 then
      match keyPart (c.advance 1) with
      | .ok (k, c') => keyParts (acc ++ [k]) fuel c'
      | .error f => if f.hard then .error f else .ok (acc, c)
    else .ok (acc, c)

/-- A key: parts separated by dots. -/
def key (c : Cursor) : Except Failure (List Key × Cursor) :=
  let r : Except Failure (List Key × Cursor) := do
    let (first, c') ← keyPart c
    keyParts [first] (c'.rest.length + 1) c'
  match within r [.label "key"] with
  | .ok (ks, c') =>
    if ks.length < recursionLimit then .ok (ks, c')
    else .error { offset := c.offset, cause := some CustomError.recursionLimitExceeded.message }
  | .error f => .error f

/-! ## Numbers and dates -/

/-- Whether a byte is a decimal digit. -/
def isDigit (b : UInt8) : Bool := 48 ≤ b && b ≤ 57

/-- Digits of a class, each `_` between two of them allowed; a `_` not followed by a digit is
a hard failure. -/
def digitsAfterFirst (isD : UInt8 → Bool) : Nat → Cursor → Except Failure Cursor
  | 0, c => .ok c
  | fuel + 1, c =>
    match c.rest with
    | b :: _ =>
      if isD b then digitsAfterFirst isD fuel (c.advance 1)
      else if b = 95 then
        let c' := c.advance 1
        match c'.peek with
        | some d =>
          if isD d then digitsAfterFirst isD fuel (c'.advance 1)
          else .error { offset := c'.offset, contexts := [.expected (.description "digit")],
                        hard := true }
        | none => .error { offset := c'.offset, contexts := [.expected (.description "digit")],
                           hard := true }
      else .ok c
    | [] => .ok c

/-- A decimal integer: an optional sign, then `0` or a digit run without leading zero. -/
def decInt (c : Cursor) : Except Failure Cursor :=
  let c1 := match c.peek with
    | some 43 | some 45 => c.advance 1
    | _ => c
  let r : Except Failure Cursor :=
    match c1.peek with
    | some b =>
      if 49 ≤ b && b ≤ 57 then digitsAfterFirst isDigit (c1.rest.length + 1) (c1.advance 1)
      else if b = 48 then .ok (c1.advance 1)
      else .error c1.soft
    | none => .error c1.soft
  within r [.label "integer"]

/-- A digit run allowing leading zeros. -/
def zeroPrefixableInt (c : Cursor) : Except Failure Cursor :=
  match c.peek with
  | some b =>
    if isDigit b then digitsAfterFirst isDigit (c.rest.length + 1) (c.advance 1)
    else .error c.soft
  | none => .error c.soft

/-- An exponent at `e` or `E`. -/
def exponentPart (c : Cursor) : Except Failure Cursor :=
  match c.peek with
  | some 101 | some 69 =>
    let c := c.advance 1
    let c := match c.peek with
      | some 43 | some 45 => c.advance 1
      | _ => c
    hardened (zeroPrefixableInt c)
  | _ => .error c.soft

/-- A fraction at its point. -/
def fractionPart (c : Cursor) : Except Failure Cursor :=
  if c.peek = some 46 then
    within (hardened (zeroPrefixableInt (c.advance 1))) [.expected (.description "digit")]
  else .error c.soft

/-- The number written by digit bytes, `_` skipped. -/
def digitsValue (bs : List UInt8) (radix : Nat) : Nat :=
  bs.foldl (fun acc b =>
    if b = 95 then acc
    else
      let d := if b ≤ 57 then b.toNat - 48 else if b ≤ 70 then b.toNat - 55 else b.toNat - 87
      acc * radix + d) 0

/-- The double a decimal float text denotes, rounded to nearest. -/
def floatValue (bs : List UInt8) : Float :=
  let bs := bs.filter (· != 95)
  let (negative, bs) := match bs with
    | 45 :: r => (true, r)
    | 43 :: r => (false, r)
    | r => (false, r)
  let intPart := bs.takeWhile isDigit
  let rest := bs.drop intPart.length
  let (fracPart, rest) := match rest with
    | 46 :: r => (r.takeWhile isDigit, r.drop (r.takeWhile isDigit).length)
    | r => ([], r)
  let expValue : Int := match rest with
    | e :: r =>
      if e = 101 || e = 69 then
        match r with
        | 45 :: ds => -(digitsValue ds 10 : Int)
        | 43 :: ds => (digitsValue ds 10 : Int)
        | ds => (digitsValue ds 10 : Int)
      else 0
    | [] => 0
  let mantissa := digitsValue (intPart ++ fracPart) 10
  let e := expValue - fracPart.length
  let magnitude :=
    if e ≥ 0 then Float.ofScientific mantissa false e.toNat
    else Float.ofScientific mantissa true (-e).toNat
  if negative then -magnitude else magnitude

/-- `inf` or `nan` with an optional sign. -/
def specialFloat (c : Cursor) : Except Failure (Float × Cursor) :=
  let (negative, c1) := match c.peek with
    | some 43 => (false, c.advance 1)
    | some 45 => (true, c.advance 1)
    | _ => (false, c)
  if c1.startsWith [105, 110, 102] then
    .ok (if negative then -(1.0 / 0.0) else 1.0 / 0.0, c1.advance 3)
  else if c1.startsWith [110, 97, 110] then .ok (0.0 / 0.0, c1.advance 3)
  else .error c1.soft

/-- A float: an integer part with a fraction or an exponent, or a special value. -/
def float (c : Cursor) : Except Failure (Float × Cursor) :=
  let decimal (c : Cursor) : Except Failure (Float × Cursor) := do
    let c1 ← decInt c
    let c2 ← match exponentPart c1 with
      | .ok c2 => pure c2
      | .error f =>
        if f.hard then throw f
        else do
          let c2 ← fractionPart c1
          match exponentPart c2 with
          | .ok c3 => pure c3
          | .error g => if g.hard then throw g else pure c2
    let v := floatValue (between c c2)
    if v.isInf && v > 0 then throw { offset := c.offset, hard := true }
    else pure (v, c2)
  within (orElse decimal specialFloat c) [.label "floating-point number"]

/-- The text of an integer that does not fit 64 bits. -/
def overflowText (negative : Bool) : String :=
  if negative then "number too small to fit in target type"
  else "number too large to fit in target type"

/-- Whether an integer fits 64-bit two's complement. -/
def fitsSigned (i : Int) : Bool := -((Nat.pow 2 63 : Nat) : Int) ≤ i && i < (Nat.pow 2 63 : Nat)

/-- A prefixed integer (`0x`, `0o` or `0b`) at its prefix. -/
def prefixedInt (radix : Nat) (isD : UInt8 → Bool) (label : String) (c : Cursor) :
    Except Failure (Int × Cursor) :=
  let body := c.advance 2
  let r : Except Failure Cursor :=
    match body.peek with
    | some b =>
      if isD b then digitsAfterFirst isD (body.rest.length + 1) (body.advance 1)
      else .error { body.soft with hard := true }
    | none => .error { body.soft with hard := true }
  match within r [.label label] with
  | .error f => .error { f with hard := true }
  | .ok c' =>
    let v := digitsValue (between body c') radix
    if v < Nat.pow 2 63 then .ok (v, c')
    else .error { offset := c.offset, cause := some (overflowText false), hard := true }

/-- An integer. -/
def integer (c : Cursor) : Except Failure (Int × Cursor) :=
  if c.startsWith [48, 120] then prefixedInt 16 isHexByte "hexadecimal integer" c
  else if c.startsWith [48, 111] then
    prefixedInt 8 (fun b => 48 ≤ b && b ≤ 55) "octal integer" c
  else if c.startsWith [48, 98] then prefixedInt 2 (fun b => b = 48 || b = 49) "binary integer" c
  else do
    let c' ← decInt c
    let text := between c c'
    let negative := text.head? = some 45
    let magnitude := digitsValue (text.filter fun b => b != 43 && b != 45) 10
    let v : Int := if negative then -(magnitude : Int) else magnitude
    if fitsSigned v then pure (v, c')
    else throw { offset := c.offset, cause := some (overflowText negative), hard := true }

/-- Exactly `n` decimal digits and their value. -/
def fixedDigits (n : Nat) (c : Cursor) : Except Failure (Nat × Cursor) :=
  let ds := (c.rest.take n).takeWhile isDigit
  if ds.length < n then .error c.soft else .ok (digitsValue ds 10, c.advance n)

/-- A two-digit field within bounds; out of bounds it fails at its start. -/
def boundedField (lo hi : Nat) (c : Cursor) : Except Failure (Nat × Cursor) := do
  let (v, c') ← fixedDigits 2 c
  if lo ≤ v && v ≤ hi then pure (v, c')
  else throw { offset := c.offset, cause := some CustomError.outOfRange.message }

/-- A byte. -/
def byte (b : UInt8) (c : Cursor) : Except Failure Cursor :=
  if c.peek = some b then .ok (c.advance 1) else .error c.soft

/-- `HH:MM:SS` with optional fraction. -/
def partialTime (c : Cursor) : Except Failure Cursor := do
  let (_, c) ← boundedField 0 23 c
  let c ← byte 58 c
  hardened (do
    let (_, c) ← boundedField 0 59 c
    let c ← byte 58 c
    let (_, c) ← boundedField 0 60 c
    if c.peek = some 46 then
      let ds := (c.rest.drop 1).takeWhile isDigit
      if ds.isEmpty then pure c else pure (c.advance (ds.length + 1))
    else pure c)

/-- `Z` or a numeric offset. -/
def timeOffset (c : Cursor) : Except Failure Cursor :=
  let r : Except Failure Cursor :=
    match c.peek with
    | some 90 | some 122 => .ok (c.advance 1)
    | some 43 | some 45 => do
      let negative := c.peek = some 45
      let c1 := c.advance 1
      let (h, c2) ← hardened (boundedField 0 23 c1)
      let c3 ← hardened (byte 58 c2)
      let (m, c4) ← hardened (boundedField 0 59 c3)
      let minutes : Int := (if negative then -1 else 1) * (h * 60 + m)
      if -(24 * 60 : Int) ≤ minutes && minutes ≤ 24 * 60 then pure c4
      else throw c.soft
    | _ => .error c.soft
  within r [.label "time offset"]

/-- Whether a year of the Gregorian calendar has a February 29. -/
def isLeapYear (year : Nat) : Bool := year % 4 = 0 && (year % 100 != 0 || year % 400 = 0)

/-- The number of days of a month (1 to 12) of a year. -/
def daysInMonth (year month : Nat) : Nat :=
  if month = 2 then (if isLeapYear year then 29 else 28)
  else if month = 4 || month = 6 || month = 9 || month = 11 then 30
  else 31

/-- A date, a date and time, or a time of day. A day past the end of its month fails at the
day. -/
def dateTime (c : Cursor) : Except Failure Cursor :=
  let date (c : Cursor) : Except Failure Cursor := within (do
    let (year, c) ← fixedDigits 4 c
    let c ← byte 45 c
    let c ← hardened (do
      let (month, c) ← boundedField 1 12 c
      let c ← byte 45 c
      let (day, c') ← boundedField 1 31 c
      if day ≤ daysInMonth year month then pure c'
      else throw { offset := c.offset, cause := some CustomError.outOfRange.message })
    match c.peek with
    | some 84 | some 116 | some 32 =>
      match partialTime (c.advance 1) with
      | .ok c' =>
        match timeOffset c' with
        | .ok c'' => pure c''
        | .error f => if f.hard then throw f else pure c'
      | .error f => if f.hard then throw f else pure c
    | _ => pure c) [.label "date-time"]
  let time (c : Cursor) : Except Failure Cursor := within (partialTime c) [.label "time"]
  match date c with
  | .ok c' => .ok c'
  | .error f => if f.hard then .error f else time c

/-! ## Values, arrays and inline tables -/

/-- The failure of a value that starts like no value. -/
def notAValue (c : Cursor) : Failure :=
  { offset := c.offset,
    contexts := [.label "string", .expected (.char '"'), .expected (.char '\'')] }

/-- The hard failure of a value nested too deep. -/
def tooDeep (c : Cursor) : Failure :=
  { offset := c.offset, cause := some CustomError.recursionLimitExceeded.message, hard := true }

mutual
/-- A value; `depth` counts the arrays and inline tables around it. An array or inline table
that would be the eightieth of a nesting fails at its bracket. -/
def value : Nat → Nat → Cursor → Except Failure (Node × Cursor)
  | 0, _, c => .error c.soft
  | fuel + 1, depth, c =>
    let spanned (r : Except Failure ((Span → Node) × Cursor)) :
        Except Failure (Node × Cursor) :=
      r.map fun (mk, c') => (mk ⟨c.offset, c'.offset⟩, c')
    match c.peek with
    | none => .error c.soft
    | some b =>
      if b = 34 || b = 39 then spanned ((string c).map fun (s, c') => (Node.string s, c'))
      else if b = 91 then
        if depth + 1 ≥ recursionLimit then .error (tooDeep c)
        else spanned ((array fuel (depth + 1) c).map fun (items, c') => (Node.array items, c'))
      else if b = 123 then
        if depth + 1 ≥ recursionLimit then .error (tooDeep c)
        else inlineTableValue fuel (depth + 1) c
      else if b = 43 || b = 45 || isDigit b then
        let asDate (c : Cursor) : Except Failure ((Span → Node) × Cursor) :=
          (dateTime c).map fun c' => (Node.datetime, c')
        let asFloat (c : Cursor) : Except Failure ((Span → Node) × Cursor) :=
          (float c).map fun (f, c') => (Node.float f, c')
        let asInt (c : Cursor) : Except Failure ((Span → Node) × Cursor) :=
          (integer c).map fun (i, c') => (Node.integer i, c')
        spanned (orElse asDate (orElse asFloat asInt) c)
      else if b = 95 then
        spanned (within ((integer c).map fun (i, c') => (Node.integer i, c'))
          [.expected (.description "leading digit")])
      else if b = 46 then
        spanned (within ((float c).map fun (f, c') => (Node.float f, c'))
          [.expected (.description "leading digit")])
      else if b = 105 || b = 110 then
        if c.startsWith [105, 110, 102] then
          .ok (.float (1.0 / 0.0) ⟨c.offset, c.offset + 3⟩, c.advance 3)
        else if c.startsWith [110, 97, 110] then
          .ok (.float (0.0 / 0.0) ⟨c.offset, c.offset + 3⟩, c.advance 3)
        else .error (notAValue c)
      else if b = 116 then
        if c.startsWith [116, 114, 117, 101] then
          .ok (.boolean true ⟨c.offset, c.offset + 4⟩, c.advance 4)
        else .error { notAValue c with hard := true }
      else if b = 102 then
        if c.startsWith [102, 97, 108, 115, 101] then
          .ok (.boolean false ⟨c.offset, c.offset + 5⟩, c.advance 5)
        else .error { notAValue c with hard := true }
      else .error (notAValue c)

/-- An array at its bracket. -/
def array : Nat → Nat → Cursor → Except Failure (List Node × Cursor)
  | 0, _, c => .error c.soft
  | fuel + 1, depth, c =>
    match hardened (arrayValues fuel depth (c.advance 1)) with
    | .error f => .error f
    | .ok (items, c') =>
      if c'.peek = some 93 then .ok (items, c'.advance 1)
      else .error { offset := c'.offset, contexts := [.label "array", .expected (.char ']')],
                    hard := true }

/-- The values of an array, with blanks, comments and an optional trailing comma. -/
def arrayValues : Nat → Nat → Cursor → Except Failure (List Node × Cursor)
  | 0, _, c => .error c.soft
  | fuel + 1, depth, c => do
    let (items, c) ← match arrayValue fuel depth c with
      | .error f => if f.hard then throw f else pure ([], c)
      | .ok (first, c1) => do
        let (rest, c2) ← arrayMore fuel depth [] c1
        let c3 := if c2.peek = some 44 then c2.advance 1 else c2
        pure (first :: rest, c3)
    let c ← skipBlankLines (c.rest.length + 1) c
    pure (items, c)

/-- One array value with the blanks and comments around it. -/
def arrayValue : Nat → Nat → Cursor → Except Failure (Node × Cursor)
  | 0, _, c => .error c.soft
  | fuel + 1, depth, c => do
    let c ← skipBlankLines (c.rest.length + 1) c
    let (v, c) ← value fuel depth c
    let c ← skipBlankLines (c.rest.length + 1) c
    pure (v, c)

/-- Further array values, each after a comma. -/
def arrayMore : Nat → Nat → List Node → Cursor → Except Failure (List Node × Cursor)
  | 0, _, acc, c => .ok (acc, c)
  | fuel + 1, depth, acc, c =>
    if c.peek = some 44 then
      match arrayValue fuel depth (c.advance 1) with
      | .ok (v, c') => arrayMore fuel depth (acc ++ [v]) c'
      | .error f => if f.hard then .error f else .ok (acc, c)
    else .ok (acc, c)

/-- An inline table at its brace, as a value with its span. -/
def inlineTableValue : Nat → Nat → Cursor → Except Failure (Node × Cursor)
  | 0, _, c => .error c.soft
  | fuel + 1, depth, c =>
    let open_ := c.advance 1
    match inlinePairs fuel depth open_ with
    | .error f => .error { f with hard := true }
    | .ok (pairs, c') =>
      let c' := skipBlanks c'
      match inlineTable pairs ⟨c.offset, c'.offset + 1⟩ with
      | .error e => .error { offset := open_.offset, cause := some e.message, hard := true }
      | .ok t =>
        if c'.peek = some 125 then .ok (t, c'.advance 1)
        else .error { offset := c'.offset,
                      contexts := [.label "inline table", .expected (.char '}')], hard := true }

/-- The pairs of an inline table, separated by commas. -/
def inlinePairs :
    Nat → Nat → Cursor → Except Failure (List (List Key × Key × Node) × Cursor)
  | 0, _, c => .ok ([], c)
  | fuel + 1, depth, c =>
    match inlinePair fuel depth c with
    | .error f => if f.hard then .error f else .ok ([], c)
    | .ok (p, c1) => inlineMore fuel depth [p] c1

/-- Further pairs, each after a comma. -/
def inlineMore : Nat → Nat → List (List Key × Key × Node) → Cursor →
    Except Failure (List (List Key × Key × Node) × Cursor)
  | 0, _, acc, c => .ok (acc, c)
  | fuel + 1, depth, acc, c =>
    if c.peek = some 44 then
      match inlinePair fuel depth (c.advance 1) with
      | .ok (p, c') => inlineMore fuel depth (acc ++ [p]) c'
      | .error f => if f.hard then .error f else .ok (acc, c)
    else .ok (acc, c)

/-- `key = value` inside an inline table. -/
def inlinePair : Nat → Nat → Cursor → Except Failure ((List Key × Key × Node) × Cursor)
  | 0, _, c => .error c.soft
  | fuel + 1, depth, c => do
    let (ks, c) ← key c
    if c.peek != some 61 then
      throw { offset := c.offset, contexts := [.expected (.char '.'), .expected (.char '=')],
              hard := true }
    let c := skipBlanks (c.advance 1)
    let (v, c) ← hardened (value fuel depth c)
    let c := skipBlanks c
    pure ((ks.dropLast, ks.getLastD default, v), c)
end

end SyscallTables.Toml
