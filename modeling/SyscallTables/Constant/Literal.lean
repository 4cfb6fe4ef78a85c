namespace SyscallTables.Literal

/-! Integer literals of constant files and resource values. A literal is hexadecimal after
`0x` or `0X`, a negated signed decimal after `-`, or an unsigned decimal; each digit run may
carry one leading `+`, and a negative value is stored as its two's complement in 64 bits. -/

/-- The value of an ASCII digit in the given radix (at most 16). -/
def digitValue (radix : Nat) (c : Char) : Option Nat :=
  let d :=
    if '0' ≤ c && c ≤ '9' then some (c.toNat - '0'.toNat)
    else if 'a' ≤ c && c ≤ 'f' then some (c.toNat - 'a'.toNat + 10)
    else if 'A' ≤ c && c ≤ 'F' then some (c.toNat - 'A'.toNat + 10)
    else none
  d.bind fun v => if v < radix then some v else none

/-- The number a run of digits denotes, read most significant first from `acc`. -/
def digitsFrom (radix : Nat) : Nat → List Char → Option Nat
  | acc, [] => some acc
  | acc, c :: cs => (digitValue radix c).bind fun d => digitsFrom radix (acc * radix + d) cs

/-- A non-empty run of digits. -/
def digits (radix : Nat) : List Char → Option Nat
  | [] => none
  | cs => digitsFrom radix 0 cs

/-- An unsigned number below `2 ^ 64`, with an optional leading `+`. -/
def unsigned (radix : Nat) (cs : List Char) : Option Nat :=
  let body := match cs with
    | '+' :: rest => rest
    | _ => cs
  (digits radix body).bind fun v => if v < Nat.pow 2 64 then some v else none

/-- A signed decimal within 64-bit two's complement range, with an optional sign. -/
def signed (cs : List Char) : Option Int :=
  match cs with
  | '-' :: rest =>
    (digits 10 rest).bind fun v => if v ≤ Nat.pow 2 63 then some (-(v : Int)) else none
  | '+' :: rest => (digits 10 rest).bind fun v => if v < Nat.pow 2 63 then some (v : Int) else none
  | _ => (digits 10 cs).bind fun v => if v < Nat.pow 2 63 then some (v : Int) else none

/-- The 64-bit word of a literal's characters. -/
def parseChars : List Char → Option UInt64
  | '0' :: 'x' :: hex => (unsigned 16 hex).map UInt64.ofNat
  | '0' :: 'X' :: hex => (unsigned 16 hex).map UInt64.ofNat
  | '-' :: magnitude => (signed magnitude).map fun v => UInt64.ofInt (-v)
  | cs => (unsigned 10 cs).map UInt64.ofNat

/-- The 64-bit word a literal denotes, if it is one. -/
def parse (s : String) : Option UInt64 := parseChars s.toList

end SyscallTables.Literal
