namespace SyscallTables.Text

/-! The Jaro similarity of two strings. Characters match when they are equal and at most half
the longer length, less one, apart; each character matches at most once, earliest first. The
similarity averages the matched share of each string and the share of matches that are in
order, term by term in double precision, so that two similarities compare, and a similarity
compares with a threshold, as that arithmetic has them. -/

/-- Matches of the characters of `a`, as flags over `a` and over `b`. -/
def jaroMatches (a b : List Char) : List Bool × List Bool :=
  let range := (max a.length b.length) / 2 - 1
  a.zipIdx.foldl (fun (aFlags, bFlags) (c, i) =>
    let lo := i - range
    let hi := min b.length (i + range + 1)
    let candidate := (List.range hi).find? fun j =>
      lo ≤ j && b[j]? == some c && bFlags[j]? == some false
    match candidate with
    | some j => (aFlags ++ [true], bFlags.set j true)
    | none => (aFlags ++ [false], bFlags)) ([], List.replicate b.length false)

/-- The number of matched characters and of transpositions (half the matched characters that
stand out of order). -/
def jaroCounts (a b : List Char) : Nat × Nat :=
  let (aFlags, bFlags) := jaroMatches a b
  let aMatched := (a.zip aFlags).filterMap fun (c, f) => if f then some c else none
  let bMatched := (b.zip bFlags).filterMap fun (c, f) => if f then some c else none
  (aMatched.length, ((aMatched.zip bMatched).filter fun (x, y) => x != y).length / 2)

/-- The Jaro similarity: 1 for two empty strings, 0 without matches, otherwise
`(m/|a| + m/|b| + (m - t)/m) / 3` for `m` matches and `t` transpositions. -/
def jaro (s t : String) : Float :=
  let a := s.toList
  let b := t.toList
  if a.isEmpty && b.isEmpty then 1.0
  else if a.isEmpty || b.isEmpty then 0.0
  else
    let (m, tr) := jaroCounts a b
    if m = 0 then 0.0
    else
      let mf := Float.ofNat m
      (mf / Float.ofNat a.length + mf / Float.ofNat b.length + Float.ofNat (m - tr) / mf) / 3.0

/-- Whether two strings are more than 0.7 similar. -/
def isSimilar (s t : String) : Bool := jaro s t > 0.7

end SyscallTables.Text
