namespace SyscallTables.Decimal

/-! Shortest decimal text of a double. A finite non-zero double is `m · 2 ^ e`; the reals that
round to it form an interval around it, closed when `m` is even. The decimal chosen is a point
of the coarsest grid `c · 10 ^ k` that meets the interval (so no shorter decimal reads back),
and of the grid points in the interval the nearest to the double, a tie going to even `c`.
How the digits are laid out (positional or with an exponent, `.0` on whole numbers) is a
`Layout` record. -/

/-- A double taken apart: the value is `(-1) ^ sign · mantissa · 2 ^ exponent`. -/
structure Binary where
  negative : Bool
  mantissa : Nat
  exponent : Int
  /-- Whether the next double below lies at half the usual distance (a power of two). -/
  narrowBelow : Bool
  deriving Repr, DecidableEq

/-- The parts of a double's bits; a NaN or an infinity comes out as a large exponent. -/
def Binary.ofBits (bits : UInt64) : Binary :=
  let n : Nat := bits.toNat
  let negative : Bool := n / Nat.pow 2 63 % 2 = 1
  let biased : Nat := n / Nat.pow 2 52 % 2048
  let fraction : Nat := n % Nat.pow 2 52
  if biased = 0 then ⟨negative, fraction, -1074, false⟩
  else ⟨negative, fraction + Nat.pow 2 52, (biased : Int) - 1075, fraction = 0 && biased > 1⟩

/-- A decimal `digits · 10 ^ exponent`. -/
structure Scientific where
  digits : Nat
  exponent : Int
  deriving Repr, DecidableEq

/-- The number of decimal digits of a positive number (1 for 0). -/
def digitCount (n : Nat) : Nat := (Nat.toDigits 10 n).length

/-- The interval of a non-zero double, as integer numerators over one denominator:
`low / den`, `value / den` and `high / den`. -/
structure Interval where
  low : Nat
  value : Nat
  high : Nat
  den : Nat
  closed : Bool

/-- The rounding interval of a double. -/
def Binary.interval (b : Binary) : Interval :=
  let gapBelow := if b.narrowBelow then 1 else 2
  let e := b.exponent - 2
  let scale := Nat.pow 2 e.toNat
  let den := Nat.pow 2 (-e).toNat
  { low := (4 * b.mantissa - gapBelow) * scale
    value := 4 * b.mantissa * scale
    high := (4 * b.mantissa + 2) * scale
    den := den
    closed := b.mantissa % 2 = 0 }

/-- The largest `k` with `10 ^ k ≤ high / den`. -/
def topExponent (i : Interval) : Int :=
  if i.den ≤ i.high then (digitCount (i.high / i.den) : Int) - 1
  else
    let j := digitCount i.den - digitCount i.high
    if i.den ≤ i.high * Nat.pow 10 j then -(j : Int) else -((j : Int) + 1)

/-- Numerators and step of the grid `10 ^ k`: a grid point `c` lies at `c · step / scaleDen`
where the interval's numerators are multiplied by `scaleNum`. -/
def gridScale (i : Interval) (k : Int) : Nat × Nat :=
  if 0 ≤ k then (1, Nat.pow 10 k.toNat * i.den) else (Nat.pow 10 (-k).toNat, i.den)

/-- The grid points of `10 ^ k` inside the interval, as the least and greatest multiple. -/
def gridRange (i : Interval) (k : Int) : Nat × Nat :=
  let (s, t) := gridScale i k
  let a := i.low * s
  let b := i.high * s
  let least := if i.closed then (a + t - 1) / t else a / t + 1
  let most := if i.closed then b / t else (b + t - 1) / t - 1
  (least, most)

/-- Of the grid points `least..most` of `10 ^ k`, the nearest to the value; a tie goes to the
even one. -/
def nearest (i : Interval) (k : Int) (least most : Nat) : Nat :=
  let (s, t) := gridScale i k
  let v := i.value * s
  let below := max least (min most (v / t))
  let above := min most (below + 1)
  let dBelow := v - below * t
  let dAbove := above * t - v
  if dBelow < dAbove then below
  else if dAbove < dBelow then above
  else if below % 2 = 0 then below else above

/-- The coarsest grid meeting the interval, searched downwards from `k`. -/
def search (i : Interval) : Nat → Int → Scientific
  | 0, k => ⟨i.value / i.den, k⟩
  | fuel + 1, k =>
    let (least, most) := gridRange i k
    if least ≤ most ∧ 0 < most then ⟨nearest i k least most, k⟩ else search i fuel (k - 1)

/-- The shortest decimal of a non-zero finite double's magnitude. -/
def Binary.shortest (b : Binary) : Scientific :=
  let i := b.interval
  search i 40 (topExponent i)

/-- How digits are laid out as text. -/
structure Layout where
  /-- Positional when the count of integer digits is above this bound. -/
  positionalAbove : Option Int
  /-- Positional when the count of integer digits is at most this bound. -/
  positionalUpTo : Option Int
  /-- Whole numbers in positional form end in `.0`. -/
  pointZero : Bool
  /-- A positive exponent is written with `+`. -/
  plusExponent : Bool
  /-- The text of zero (without sign). -/
  zero : String

/-- The decimal digits of a number as characters. -/
def digitChars (n : Nat) : List Char := Nat.toDigits 10 n

/-- Positional text of `digits · 10 ^ exponent`, integer digits counted by `whole`. -/
def positional (layout : Layout) (ds : List Char) (whole : Int) : String :=
  if whole ≥ (ds.length : Int) then
    String.ofList (ds ++ List.replicate (whole.toNat - ds.length) '0') ++
      (if layout.pointZero then ".0" else "")
  else if whole > 0 then
    String.ofList (ds.take whole.toNat) ++ "." ++ String.ofList (ds.drop whole.toNat)
  else
    "0." ++ String.ofList (List.replicate (-whole).toNat '0' ++ ds)

/-- Text of `digits · 10 ^ exponent` with an exponent mark. -/
def exponential (layout : Layout) (ds : List Char) (whole : Int) : String :=
  let e := whole - 1
  let mantissa := match ds with
    | [d] => String.ofList [d]
    | d :: rest => String.ofList [d] ++ "." ++ String.ofList rest
    | [] => "0"
  let sign := if e < 0 then "-" else if layout.plusExponent then "+" else ""
  mantissa ++ "e" ++ sign ++ toString e.natAbs

/-- The text of a decimal's magnitude under a layout. -/
def Scientific.render (layout : Layout) (s : Scientific) : String :=
  let ds := digitChars s.digits
  let whole := s.exponent + ds.length
  let aboveOk := match layout.positionalAbove with
    | some lo => whole > lo
    | none => true
  let upToOk := match layout.positionalUpTo with
    | some hi => whole ≤ hi
    | none => true
  if aboveOk && upToOk then positional layout ds whole else exponential layout ds whole

/-- The text of a finite double under a layout. -/
def renderFinite (layout : Layout) (x : Float) : String :=
  let b := Binary.ofBits x.toBits
  let sign := if b.negative then "-" else ""
  if b.mantissa = 0 then sign ++ layout.zero
  else sign ++ b.shortest.render layout

end SyscallTables.Decimal
