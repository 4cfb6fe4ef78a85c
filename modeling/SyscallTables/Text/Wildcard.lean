namespace SyscallTables.Wildcard

/-! File-name patterns in which `*` stands for any run of bytes and every other byte for
itself. A name is scanned once from the left against the pattern. Bytes are matched greedily;
on a mismatch the scan goes back to just after the last star seen and lets that star take one
more byte of the name. Earlier stars are never revisited. -/

/-- The byte `*`. -/
def star : UInt8 := 42

/-- The names a pattern stands for: the empty pattern only the empty name, a star any bytes
followed by a name of the rest, any other byte itself followed by a name of the rest. -/
def Matches : List UInt8 → List UInt8 → Prop
  | [], name => name = []
  | b :: pattern, name =>
    if b = star then ∃ run rest, name = run ++ rest ∧ Matches pattern rest
    else ∃ rest, name = b :: rest ∧ Matches pattern rest

/-- A point of the scan of `name` against `pattern`: the next positions in both and the last
star seen, with the name position from which its run is being tried. Both positions stay within
their texts and the star behind the pattern position, so no step reads out of bounds. -/
structure Scan (pattern name : List UInt8) where
  patternAt : Nat
  nameAt : Nat
  lastStar : Option (Nat × Nat)
  patternAt_le : patternAt ≤ pattern.length
  nameAt_le : nameAt ≤ name.length
  lastStar_lt : ∀ sp sn, lastStar = some (sp, sn) → sp < patternAt ∧ sn ≤ nameAt

namespace Scan

variable {pattern name : List UInt8}

/-- Nothing read yet. -/
def start : Scan pattern name where
  patternAt := 0
  nameAt := 0
  lastStar := none
  patternAt_le := Nat.zero_le _
  nameAt_le := Nat.zero_le _
  lastStar_lt := by simp

/-- Steps over a star, remembering it with the name position its run starts at. -/
def markStar (s : Scan pattern name) (inPattern : s.patternAt < pattern.length) :
    Scan pattern name where
  patternAt := s.patternAt + 1
  nameAt := s.nameAt
  lastStar := some (s.patternAt, s.nameAt)
  patternAt_le := inPattern
  nameAt_le := s.nameAt_le
  lastStar_lt := by
    rintro sp sn ⟨⟩
    exact ⟨Nat.lt_succ_self _, Nat.le_refl _⟩

/-- Steps over a pattern byte equal to the next name byte. -/
def advance (s : Scan pattern name) (inPattern : s.patternAt < pattern.length)
    (inName : s.nameAt < name.length) : Scan pattern name where
  patternAt := s.patternAt + 1
  nameAt := s.nameAt + 1
  lastStar := s.lastStar
  patternAt_le := inPattern
  nameAt_le := inName
  lastStar_lt := fun sp sn last => by
    have := s.lastStar_lt sp sn last
    omega

/-- Goes back to just after the last star, whose run now takes one more byte. -/
def retry (s : Scan pattern name) (sp sn : Nat) (last : s.lastStar = some (sp, sn))
    (inName : s.nameAt < name.length) : Scan pattern name where
  patternAt := sp + 1
  nameAt := sn + 1
  lastStar := some (sp, sn + 1)
  patternAt_le := by
    have := s.lastStar_lt sp sn last
    have := s.patternAt_le
    omega
  nameAt_le := by
    have := s.lastStar_lt sp sn last
    omega
  lastStar_lt := by
    rintro sp' sn' ⟨⟩
    exact ⟨Nat.lt_succ_self _, Nat.le_refl _⟩

/-- One step of the scan: the next point, or the verdict once the name is read or a mismatch
finds no star to go back to. -/
def step (s : Scan pattern name) : Scan pattern name ⊕ Bool :=
  if inName : s.nameAt < name.length then
    if isStar : pattern[s.patternAt]? = some star then
      .inl (s.markStar (List.getElem?_eq_some_iff.mp isStar).1)
    else if same : pattern[s.patternAt]? = some name[s.nameAt] then
      .inl (s.advance (List.getElem?_eq_some_iff.mp same).1 inName)
    else
      match last : s.lastStar with
      | some (sp, sn) => .inl (s.retry sp sn last inName)
      | none => .inr false
  else .inr ((pattern.drop s.patternAt).all (· == star))

/-- Steps the scan until its verdict, within `budget` steps; a scan out of steps rejects. -/
def runFor : Nat → Scan pattern name → Bool
  | 0, _ => false
  | budget + 1, s =>
    match s.step with
    | .inl next => runFor budget next
    | .inr verdict => verdict

/-- Steps enough for every scan: the last star's run grows at most `name.length + 1` times, and
between two such retries each step reads a byte of the pattern or of the name. -/
def budget (pattern name : List UInt8) : Nat :=
  (name.length + 2) * (pattern.length + name.length + 1)

end Scan

/-- Whether `name` is in the language of `pattern`, both taken as bytes. -/
def acceptsBytes (pattern name : List UInt8) : Bool :=
  (Scan.start : Scan pattern name).runFor (Scan.budget pattern name)

/-- Whether the file name `name` matches the pattern `pattern`, byte by byte. -/
def accepts (pattern name : String) : Bool :=
  acceptsBytes pattern.toUTF8.toList name.toUTF8.toList

end SyscallTables.Wildcard
