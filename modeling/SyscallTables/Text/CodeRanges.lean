namespace SyscallTables.Text

/-! Sets of characters given by their code points, as lists of inclusive ranges. A table of a
character property lists its ranges in increasing order with a gap after each, so that no two
ranges could be merged; membership is a look through the ranges. -/

/-- Whether a character's code point lies in one of the inclusive ranges. -/
def inRanges (ranges : List (Nat × Nat)) (c : Char) : Bool :=
  ranges.any fun (lo, hi) => lo ≤ c.toNat && c.toNat ≤ hi

/-- Whether ranges are in increasing order, none empty, with a gap after each. -/
def separated : List (Nat × Nat) → Bool
  | [] => true
  | [(lo, hi)] => lo ≤ hi
  | (lo, hi) :: (lo', hi') :: rest => lo ≤ hi && hi + 1 < lo' && separated ((lo', hi') :: rest)

@[simp]
theorem inRanges_nil (c : Char) : inRanges [] c = false := rfl

theorem inRanges_cons (lo hi : Nat) (rest : List (Nat × Nat)) (c : Char) :
    inRanges ((lo, hi) :: rest) c = ((lo ≤ c.toNat && c.toNat ≤ hi) || inRanges rest c) := rfl

theorem inRanges_iff (ranges : List (Nat × Nat)) (c : Char) :
    inRanges ranges c = true ↔ ∃ r ∈ ranges, r.1 ≤ c.toNat ∧ c.toNat ≤ r.2 := by
  simp [inRanges]

end SyscallTables.Text
