import SyscallTables.Text.Wildcard

namespace SyscallTables.Wildcard

/-! The greedy scan decides the language of a pattern. The scan keeps only the last star it
has seen; an earlier star never has to be tried again, because everything between the last star
and the scan position is a stretch of plain bytes that the name repeats (`Scan.Aligned`). What is
left to decide at a scan point (`Scan.Sought`) is the rest of the pattern against the rest of
the name, or the pattern after the last star against a later suffix of the name. Every step of
the scan keeps that question the same. -/

section Language

variable {pattern name : List UInt8}

@[simp] theorem matches_nil_pattern : Matches [] name ↔ name = [] := Iff.rfl

theorem matches_star :
    Matches (star :: pattern) name ↔ ∃ run rest, name = run ++ rest ∧ Matches pattern rest := by
  simp [Matches]

theorem matches_byte {b : UInt8} (plain : b ≠ star) :
    Matches (b :: pattern) name ↔ ∃ rest, name = b :: rest ∧ Matches pattern rest := by
  simp [Matches, plain]

theorem matches_byte_cons {b c : UInt8} (plain : b ≠ star) :
    Matches (b :: pattern) (c :: name) ↔ c = b ∧ Matches pattern name := by
  rw [matches_byte plain]
  constructor
  · rintro ⟨rest, split, rest_matches⟩
    obtain ⟨same, rfl⟩ := List.cons.inj split
    exact ⟨same, rest_matches⟩
  · rintro ⟨rfl, rest_matches⟩
    exact ⟨name, rfl, rest_matches⟩

/-- Only stars are left of a pattern that matches the empty name. -/
theorem matches_nil_name : Matches pattern [] ↔ ∀ b ∈ pattern, b = star := by
  induction pattern with
  | nil => simp
  | cons b pattern ih =>
    by_cases isStar : b = star
    · subst isStar
      rw [matches_star, List.forall_mem_cons, ← ih]
      constructor
      · rintro ⟨run, rest, split, rest_matches⟩
        obtain ⟨-, rfl⟩ := List.append_eq_nil_iff.mp split.symm
        exact ⟨rfl, rest_matches⟩
      · rintro ⟨-, rest_matches⟩
        exact ⟨[], [], rfl, rest_matches⟩
    · simp [matches_byte isStar, isStar]

/-- A stretch of plain bytes matches itself and nothing else. -/
theorem matches_plain_append {plain : List UInt8} (noStar : ∀ b ∈ plain, b ≠ star) :
    Matches (plain ++ pattern) name ↔ ∃ rest, name = plain ++ rest ∧ Matches pattern rest := by
  induction plain generalizing name with
  | nil => simp
  | cons b plain ih =>
    have head : b ≠ star := noStar b (List.mem_cons_self ..)
    have tail : ∀ c ∈ plain, c ≠ star := fun c member => noStar c (List.mem_cons_of_mem _ member)
    simp only [List.cons_append, matches_byte head, ih tail]
    constructor
    · rintro ⟨_, rfl, rest, rfl, rest_matches⟩
      exact ⟨rest, rfl, rest_matches⟩
    · rintro ⟨rest, rfl, rest_matches⟩
      exact ⟨_, rfl, rest, rfl, rest_matches⟩

/-- A star in front of the pattern lets the match start at any later position of the name. -/
theorem matches_star_drop {i : Nat} (within : i ≤ name.length) :
    Matches (star :: pattern) (name.drop i) ↔
      ∃ k, i ≤ k ∧ k ≤ name.length ∧ Matches pattern (name.drop k) := by
  rw [matches_star]
  constructor
  · rintro ⟨run, rest, split, rest_matches⟩
    have lengths := congrArg List.length split
    simp only [List.length_drop, List.length_append] at lengths
    refine ⟨i + run.length, by omega, by omega, ?_⟩
    rwa [← List.drop_drop, split, List.drop_left]
  · rintro ⟨k, after, before, rest_matches⟩
    refine ⟨(name.drop i).take (k - i), name.drop k, ?_, rest_matches⟩
    have whole := List.take_append_drop (k - i) (name.drop i)
    rw [List.drop_drop, Nat.add_sub_cancel' after] at whole
    exact whole.symm

end Language

/-- A position from `i` on is `i` itself or one further along. -/
theorem exists_at_or_after {P : Nat → Prop} {i bound : Nat} (within : i ≤ bound) :
    (∃ k, i ≤ k ∧ k ≤ bound ∧ P k) ↔ P i ∨ ∃ k, i < k ∧ k ≤ bound ∧ P k := by
  constructor
  · rintro ⟨k, after, below, holds⟩
    rcases Nat.lt_or_eq_of_le after with later | rfl
    · exact .inr ⟨k, later, below, holds⟩
    · exact .inl holds
  · rintro (now | ⟨k, later, below, holds⟩)
    · exact ⟨i, Nat.le_refl _, within, now⟩
    · exact ⟨k, Nat.le_of_lt later, below, holds⟩

theorem drop_eq_cons_of_found {l : List UInt8} {i : Nat} {b : UInt8} (found : l[i]? = some b) :
    l.drop i = b :: l.drop (i + 1) := by
  obtain ⟨inside, rfl⟩ := List.getElem?_eq_some_iff.mp found
  exact List.drop_eq_getElem_cons inside

namespace Scan

variable {pattern name : List UInt8}

/-- Between the last star and the scan position the pattern is a stretch of plain bytes, and the
name holds the same stretch from where the star's run ends. -/
def Aligned (s : Scan pattern name) : Prop :=
  ∀ sp sn, s.lastStar = some (sp, sn) → ∃ plain : List UInt8, (∀ b ∈ plain, b ≠ star) ∧
    pattern.drop (sp + 1) = plain ++ pattern.drop s.patternAt ∧
      name.drop sn = plain ++ name.drop s.nameAt

/-- What a scan point still has to decide: the rest of the pattern against the rest of the name,
or the pattern after the last star against a suffix of the name past the star's current run. -/
def Sought (s : Scan pattern name) : Prop :=
  Matches (pattern.drop s.patternAt) (name.drop s.nameAt) ∨
    ∃ sp sn, s.lastStar = some (sp, sn) ∧
      ∃ k, sn < k ∧ k ≤ name.length ∧ Matches (pattern.drop (sp + 1)) (name.drop k)

theorem start_aligned : (start : Scan pattern name).Aligned := by
  simp [Aligned, start]

theorem sought_start : (start : Scan pattern name).Sought ↔ Matches pattern name := by
  simp [Sought, start]

theorem sought_of_lastStar {s : Scan pattern name} {sp sn : Nat}
    (last : s.lastStar = some (sp, sn)) :
    s.Sought ↔ Matches (pattern.drop s.patternAt) (name.drop s.nameAt) ∨
      ∃ k, sn < k ∧ k ≤ name.length ∧ Matches (pattern.drop (sp + 1)) (name.drop k) := by
  rw [Sought]
  constructor
  · rintro (now | ⟨sp', sn', found, later⟩)
    · exact .inl now
    · rw [last, Option.some.injEq, Prod.mk.injEq] at found
      obtain ⟨rfl, rfl⟩ := found
      exact .inr later
  · rintro (now | later)
    · exact .inl now
    · exact .inr ⟨sp, sn, last, later⟩

theorem markStar_aligned (s : Scan pattern name) (inPattern : s.patternAt < pattern.length) :
    (s.markStar inPattern).Aligned := by
  rintro sp sn ⟨⟩
  exact ⟨[], by simp, rfl, rfl⟩

theorem retry_aligned (s : Scan pattern name) (sp sn : Nat) (last : s.lastStar = some (sp, sn))
    (inName : s.nameAt < name.length) : (s.retry sp sn last inName).Aligned := by
  rintro sp' sn' ⟨⟩
  exact ⟨[], by simp, rfl, rfl⟩

/-- Matching a plain byte lengthens the stretch behind the last star by that byte. -/
theorem advance_aligned {s : Scan pattern name} (aligned : s.Aligned)
    (notStar : pattern[s.patternAt]? ≠ some star) (inName : s.nameAt < name.length)
    (same : pattern[s.patternAt]? = some name[s.nameAt]) :
    (s.advance (List.getElem?_eq_some_iff.mp same).1 inName).Aligned := by
  intro sp sn last
  obtain ⟨plain, noStar, patternSplit, nameSplit⟩ := aligned sp sn last
  have plainByte : name[s.nameAt] ≠ star := fun isStar => notStar (isStar ▸ same)
  refine ⟨plain ++ [name[s.nameAt]], ?_, ?_, ?_⟩
  · simpa [or_imp, forall_and] using ⟨noStar, plainByte⟩
  · rw [patternSplit, drop_eq_cons_of_found same]
    simp [advance]
  · rw [nameSplit, List.drop_eq_getElem_cons inName]
    simp [advance]

/-- Past the end of the name, only the rest of the pattern can still match: a suffix after the
star's run is shorter than the plain stretch that would have to start it. -/
theorem sought_at_end {s : Scan pattern name} (aligned : s.Aligned)
    (ended : ¬ s.nameAt < name.length) :
    s.Sought ↔ ∀ b ∈ pattern.drop s.patternAt, b = star := by
  have atEnd : name.drop s.nameAt = [] := List.drop_eq_nil_of_le (by omega)
  rw [Sought, atEnd, matches_nil_name, or_iff_left_iff_imp]
  rintro ⟨sp, sn, last, k, later, _, suffix⟩
  obtain ⟨plain, noStar, patternSplit, nameSplit⟩ := aligned sp sn last
  rw [patternSplit, matches_plain_append noStar] at suffix
  obtain ⟨rest, restSplit, -⟩ := suffix
  have short := congrArg List.length restSplit
  have long := congrArg List.length nameSplit
  simp only [atEnd, List.append_nil, List.length_drop, List.length_append] at short long
  omega

/-- On a star the question stays the same: a run found from the older star also starts a run
from the new one, which sits further along the same stretch. -/
theorem sought_markStar {s : Scan pattern name} (aligned : s.Aligned)
    (isStar : pattern[s.patternAt]? = some star) :
    (s.markStar (List.getElem?_eq_some_iff.mp isStar).1).Sought ↔ s.Sought := by
  have here := drop_eq_cons_of_found isStar
  have fromHere : Matches (pattern.drop s.patternAt) (name.drop s.nameAt) ↔
      ∃ k, s.nameAt ≤ k ∧ k ≤ name.length ∧ Matches (pattern.drop (s.patternAt + 1)) (name.drop k) := by
    rw [here, matches_star_drop s.nameAt_le]
  -- the new question is the old first half, split at whether the star's run is empty
  have marked : (s.markStar (List.getElem?_eq_some_iff.mp isStar).1).Sought ↔
      Matches (pattern.drop s.patternAt) (name.drop s.nameAt) := by
    rw [sought_of_lastStar rfl, fromHere, exists_at_or_after s.nameAt_le]
    rfl
  rw [marked, Sought, iff_self_or]
  rintro ⟨sp, sn, last, k, later, within, suffix⟩
  obtain ⟨plain, noStar, patternSplit, nameSplit⟩ := aligned sp sn last
  rw [patternSplit, matches_plain_append noStar] at suffix
  obtain ⟨rest, restSplit, rest_matches⟩ := suffix
  have lengths := congrArg List.length nameSplit
  have restLengths := congrArg List.length restSplit
  simp only [List.length_drop, List.length_append] at lengths restLengths
  have := (s.lastStar_lt sp sn last).2
  have restAt : rest = name.drop (k + plain.length) := by
    rw [← List.drop_drop, restSplit, List.drop_left]
  rw [restAt, here, matches_star_drop (by omega)] at rest_matches
  obtain ⟨j, after, within', tail⟩ := rest_matches
  rw [fromHere]
  exact ⟨j, by have := s.nameAt_le; omega, within', tail⟩

/-- Matching a plain byte leaves the question of the rest. -/
theorem sought_advance {s : Scan pattern name} (notStar : pattern[s.patternAt]? ≠ some star)
    (inName : s.nameAt < name.length) (same : pattern[s.patternAt]? = some name[s.nameAt]) :
    (s.advance (List.getElem?_eq_some_iff.mp same).1 inName).Sought ↔ s.Sought := by
  have plainByte : name[s.nameAt] ≠ star := fun isStar => notStar (isStar ▸ same)
  have step : Matches (pattern.drop s.patternAt) (name.drop s.nameAt) ↔
      Matches (pattern.drop (s.patternAt + 1)) (name.drop (s.nameAt + 1)) := by
    rw [drop_eq_cons_of_found same, List.drop_eq_getElem_cons inName,
      matches_byte_cons plainByte]
    simp
  simp only [Sought, advance, step]

/-- On a mismatch the rest of the pattern cannot match the rest of the name. -/
theorem not_matches_of_mismatch {s : Scan pattern name} (notStar : pattern[s.patternAt]? ≠ some star)
    (inName : s.nameAt < name.length) (differs : pattern[s.patternAt]? ≠ some name[s.nameAt]) :
    ¬ Matches (pattern.drop s.patternAt) (name.drop s.nameAt) := by
  rw [List.drop_eq_getElem_cons inName]
  rcases Option.eq_none_or_eq_some pattern[s.patternAt]? with found | ⟨b, found⟩
  · rw [List.drop_eq_nil_of_le (List.getElem?_eq_none_iff.mp found)]
    exact List.cons_ne_nil _ _
  · have plainByte : b ≠ star := fun isStar => notStar (isStar ▸ found)
    rw [drop_eq_cons_of_found found, matches_byte_cons plainByte]
    rintro ⟨first, -⟩
    exact differs (by rw [found, first])

/-- On a mismatch the last star takes one more byte: the question is then the same. -/
theorem sought_retry {s : Scan pattern name} (notStar : pattern[s.patternAt]? ≠ some star)
    (inName : s.nameAt < name.length) (differs : pattern[s.patternAt]? ≠ some name[s.nameAt])
    {sp sn : Nat} (last : s.lastStar = some (sp, sn)) :
    (s.retry sp sn last inName).Sought ↔ s.Sought := by
  have := (s.lastStar_lt sp sn last).2
  rw [sought_of_lastStar last, or_iff_right (not_matches_of_mismatch notStar inName differs),
    sought_of_lastStar (show (s.retry sp sn last inName).lastStar = some (sp, sn + 1) from rfl)]
  exact (exists_at_or_after (P := fun k => Matches (pattern.drop (sp + 1)) (name.drop k))
    (by omega : sn + 1 ≤ name.length)).symm

/-- How far the last star's run can still grow; more than any run before a star is seen. -/
def starRoom (s : Scan pattern name) : Nat :=
  match s.lastStar with
  | none => name.length + 1
  | some (_, sn) => name.length - sn

/-- The bytes of the pattern and of the name still to be read. -/
def room (s : Scan pattern name) : Nat :=
  (pattern.length - s.patternAt) + (name.length - s.nameAt)

/-- The work left to a scan: a retry lowers the room of the star's run, and every other step the
bytes left to read, of which there are fewer than `pattern.length + name.length + 1`. -/
def work (s : Scan pattern name) : Nat :=
  s.starRoom * (pattern.length + name.length + 1) + s.room

theorem starRoom_of_some {s : Scan pattern name} {sp sn : Nat}
    (last : s.lastStar = some (sp, sn)) : s.starRoom = name.length - sn := by
  simp [starRoom, last]

/-- The last star's run never starts past the name position. -/
theorem nameRoom_le_starRoom (s : Scan pattern name) : name.length - s.nameAt ≤ s.starRoom := by
  cases last : s.lastStar with
  | none =>
    simp only [starRoom, last]
    omega
  | some anchor =>
    obtain ⟨sp, sn⟩ := anchor
    have := (s.lastStar_lt sp sn last).2
    rw [starRoom_of_some last]
    omega

theorem room_lt (s : Scan pattern name) : s.room < pattern.length + name.length + 1 := by
  simp only [room]
  omega

theorem markStar_work_lt (s : Scan pattern name) (inPattern : s.patternAt < pattern.length) :
    (s.markStar inPattern).work < s.work := by
  have fewer : (s.markStar inPattern).starRoom * (pattern.length + name.length + 1) ≤
      s.starRoom * (pattern.length + name.length + 1) :=
    Nat.mul_le_mul_right _ (nameRoom_le_starRoom s)
  have read : (s.markStar inPattern).room + 1 = s.room := by
    simp only [room, markStar]
    omega
  simp only [work]
  omega

theorem advance_work_lt (s : Scan pattern name) (inPattern : s.patternAt < pattern.length)
    (inName : s.nameAt < name.length) : (s.advance inPattern inName).work < s.work := by
  have read : (s.advance inPattern inName).room + 2 = s.room := by
    simp only [room, advance]
    omega
  have same : (s.advance inPattern inName).starRoom = s.starRoom := rfl
  simp only [work, same]
  omega

theorem retry_work_lt (s : Scan pattern name) (sp sn : Nat) (last : s.lastStar = some (sp, sn))
    (inName : s.nameAt < name.length) : (s.retry sp sn last inName).work < s.work := by
  have := (s.lastStar_lt sp sn last).2
  -- the star's room drops by one, which outweighs any bytes put back to read
  have grown : (s.retry sp sn last inName).starRoom + 1 = s.starRoom := by
    rw [starRoom_of_some last, starRoom_of_some (show (s.retry sp sn last inName).lastStar =
      some (sp, sn + 1) from rfl)]
    omega
  have bounded := room_lt (s.retry sp sn last inName)
  simp only [work, ← grown, Nat.succ_mul]
  omega

/-- What one step from an aligned point does: the next point is aligned, asks the same question
and has less work left, and a verdict answers the question. -/
theorem step_spec (s : Scan pattern name) (aligned : s.Aligned) :
    match s.step with
    | .inl next => next.Aligned ∧ (next.Sought ↔ s.Sought) ∧ next.work < s.work
    | .inr verdict => (verdict = true ↔ s.Sought) := by
  fun_cases step s with
  | case1 inName isStar =>
    exact ⟨markStar_aligned _ _, sought_markStar aligned isStar, markStar_work_lt _ _⟩
  | case2 inName notStar same =>
    exact ⟨advance_aligned aligned notStar inName same, sought_advance notStar inName same,
      advance_work_lt _ _ _⟩
  | case3 inName notStar differs sp sn last =>
    exact ⟨retry_aligned _ _ _ _ _, sought_retry notStar inName differs last,
      retry_work_lt _ _ _ _ _⟩
  | case4 inName notStar differs last =>
    simp only [Bool.false_eq_true, false_iff, Sought, not_or]
    exact ⟨not_matches_of_mismatch notStar inName differs, by simp [last]⟩
  | case5 ended =>
    rw [sought_at_end aligned ended]
    simp

/-- Run from an aligned point with more steps than its work, the scan answers exactly the
question left at that point. -/
theorem runFor_eq_true_iff (budget : Nat) (s : Scan pattern name) (aligned : s.Aligned)
    (enough : s.work < budget) : s.runFor budget = true ↔ s.Sought := by
  -- each step keeps the question and spends one step of the budget on less work
  fun_induction runFor budget s with
  | case1 s => omega
  | case2 budget s next stepped ih =>
    have spec := step_spec s aligned
    rw [stepped] at spec
    obtain ⟨nextAligned, same, less⟩ := spec
    rw [ih nextAligned (by omega), same]
  | case3 budget s verdict stepped =>
    have spec := step_spec s aligned
    rw [stepped] at spec
    exact spec

theorem start_work_lt_budget : (start : Scan pattern name).work < budget pattern name := by
  have first : (start : Scan pattern name).starRoom = name.length + 1 := rfl
  have bounded := room_lt (start : Scan pattern name)
  simp only [work, budget, first, Nat.succ_mul]
  omega

end Scan

/-- The scan accepts a name exactly when it is in the language of the pattern. -/
theorem acceptsBytes_iff_matches (pattern name : List UInt8) :
    acceptsBytes pattern name = true ↔ Matches pattern name := by
  rw [acceptsBytes, Scan.runFor_eq_true_iff _ _ Scan.start_aligned Scan.start_work_lt_budget,
    Scan.sought_start]

end SyscallTables.Wildcard
