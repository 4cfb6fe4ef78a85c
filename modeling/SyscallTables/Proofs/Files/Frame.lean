import SyscallTables.Generator.Writer
import SyscallTables.Proofs.Constant.Contents

namespace SyscallTables

namespace FileTree

/-! What a change to a file tree leaves alone. Setting a location changes what stands there
and nothing else; a walk only looks at the directories it passes, so a tree that keeps every
directory of another walks every path the same way, and a file that was written reads back as
written. -/

section Set

variable (t : FileTree) (L : Location) (e : Entry)

theorem lookup_filter_key (entries : List (Location × Entry)) (loc : Location) :
    (entries.filter (·.1 != L)).lookup loc = if loc = L then none else entries.lookup loc := by
  induction entries with
  | nil => simp
  | cons entry entries ih =>
    obtain ⟨key, value⟩ := entry
    by_cases here : loc = key
    · subst here
      by_cases dropped : loc = L
      · rw [List.filter_cons_of_neg (by simp [dropped]), ih, if_pos dropped, if_pos dropped]
      · rw [List.filter_cons_of_pos (by simp [dropped]), if_neg dropped]
        simp
    · rw [List.lookup_cons, beq_false_of_ne here]
      by_cases dropped : key = L
      · rw [List.filter_cons_of_neg (by simp [dropped]), ih]
      · rw [List.filter_cons_of_pos (by simp [dropped]), List.lookup_cons, beq_false_of_ne here, ih]

theorem get?_set (loc : Location) :
    (t.set L e).get? loc =
      if loc.isEmpty then some .directory else if loc = L then some e else t.get? loc := by
  unfold get? set
  by_cases root : loc.isEmpty = true
  · simp [root]
  · simp only [root, Bool.false_eq_true, if_false]
    have last : [(L, e)].lookup loc = if loc = L then some e else none := by
      by_cases here : loc = L <;> simp [List.lookup_cons, here, beq_false_of_ne]
    cases found : (t.entries.filter (·.1 != L)).lookup loc with
    | none =>
      rw [List.lookup_append, found, Option.none_or, last]
      rw [lookup_filter_key] at found
      by_cases here : loc = L
      · simp [here]
      · simp only [here, if_false] at found ⊢
        exact found.symm
    | some w =>
      rw [List.lookup_append, found, Option.some_or]
      rw [lookup_filter_key] at found
      by_cases here : loc = L
      · simp [here] at found
      · simp only [here, if_false] at found ⊢
        exact found.symm

variable {t L}

theorem get?_set_self (named : L ≠ []) : (t.set L e).get? L = some e := by
  simp [get?_set, named]

theorem get?_set_ne {loc : Location} (other : loc ≠ L) : (t.set L e).get? loc = t.get? loc := by
  rw [get?_set, if_neg other]
  by_cases root : loc.isEmpty = true
  · rw [if_pos root, get?, if_pos root]
  · rw [if_neg root]

end Set

/-- Every directory of one tree is a directory of the other. -/
def KeepsDirs (t t' : FileTree) : Prop :=
  ∀ loc, t.get? loc = some .directory → t'.get? loc = some .directory

theorem KeepsDirs.refl (t : FileTree) : KeepsDirs t t := fun _ dir => dir

theorem KeepsDirs.trans {t₁ t₂ t₃ : FileTree} (first : KeepsDirs t₁ t₂)
    (second : KeepsDirs t₂ t₃) : KeepsDirs t₁ t₃ :=
  fun loc dir => second loc (first loc dir)

theorem keepsDirs_set (t : FileTree) {L : Location} (notDir : t.get? L ≠ some .directory)
    (e : Entry) : KeepsDirs t (t.set L e) := by
  intro loc dir
  have other : loc ≠ L := by
    rintro rfl
    exact notDir dir
  rwa [get?_set_ne e other]

section Walk

variable {t t' : FileTree} (keeps : KeepsDirs t t')
include keeps

theorem walk_keepsDirs {start : Location} {ps : List String} {loc : Location}
    (walked : t.walk start ps = .ok loc) : t'.walk start ps = .ok loc := by
  induction ps generalizing start with
  | nil => exact walked
  | cons s rest ih =>
    -- the walk went on, so the next place was a directory, which the other tree keeps
    unfold walk at walked ⊢
    dsimp only at walked ⊢
    cases next : t.get? ((LastPart.ofPart s).from start) with
    | none => simp [next] at walked
    | some entry =>
      cases entry with
      | file c => simp [next] at walked
      | directory =>
        rw [next] at walked
        rw [keeps _ next]
        exact ih walked

theorem lookup_keepsDirs {cwd : Location} {p : Path} {l : Lookup}
    (found : t.lookup cwd p = .ok l) : t'.lookup cwd p = .ok l := by
  unfold lookup at found ⊢
  cases last : p.parts.getLast? with
  | none => simpa [last] using found
  | some part =>
    simp only [last] at found ⊢
    cases walked : t.walk (if p.hasRoot = true then [] else cwd) p.parts.dropLast with
    | error e => simp [walked] at found
    | ok dir =>
      rw [walk_keepsDirs keeps walked]
      simpa [walked] using found

end Walk

/-! ## Writing a file -/

/-- What a successful write did: looked the path up to a place that holds no directory and
put the file there. -/
theorem writeFile_ok {t t' : FileTree} {cwd : Location} {p : Path} {c : String}
    (written : t.writeFile cwd p c = .ok t') :
    ∃ l, t.lookup cwd p = .ok l ∧ l.trailing = false ∧ t.get? l.target ≠ some .directory ∧
      t' = t.set l.target (.file c) := by
  unfold writeFile at written
  cases found : t.lookup cwd p with
  | error e => rw [found] at written; cases written
  | ok l =>
    rw [found] at written
    dsimp only [bind, Except.bind] at written
    cases trailing : l.trailing with
    | true => rw [trailing] at written; cases written
    | false =>
      rw [trailing] at written
      refine ⟨l, rfl, trailing, ?_⟩
      cases target : t.get? l.target with
      | none => rw [target] at written; cases written; simp
      | some entry =>
        cases entry with
        | directory => rw [target] at written; cases written
        | file old => rw [target] at written; cases written; simp

theorem readFile_writeFile {t t' : FileTree} {cwd : Location} {p : Path} {c : String}
    (written : t.writeFile cwd p c = .ok t') : t'.readFile cwd p = .ok c := by
  obtain ⟨l, found, trailing, notDir, rfl⟩ := writeFile_ok written
  have named : l.target ≠ [] := by
    rintro root
    exact notDir (by rw [root]; rfl)
  have found' := lookup_keepsDirs (keepsDirs_set t notDir (.file c)) found
  unfold readFile find
  rw [found']
  dsimp only [bind, Except.bind]
  rw [get?_set_self _ named, trailing]
  rfl

/-! ## Making directories -/

theorem createDir_ok {t t' : FileTree} {cwd : Location} {p : Path}
    (made : t.createDir cwd p = .ok t') :
    ∃ l, t.lookup cwd p = .ok l ∧ t.get? l.target = none ∧ t' = t.set l.target .directory := by
  unfold createDir at made
  cases found : t.lookup cwd p with
  | error e => rw [found] at made; cases made
  | ok l =>
    rw [found] at made
    dsimp only [bind, Except.bind] at made
    refine ⟨l, rfl, ?_⟩
    cases last : l.last with
    | name n =>
      rw [last] at made
      cases target : t.get? l.target with
      | none => rw [target] at made; cases made; exact ⟨rfl, rfl⟩
      | some entry => rw [target] at made; cases made
    | root => rw [last] at made; cases made
    | current => rw [last] at made; cases made
    | up => rw [last] at made; cases made

theorem createDir_keepsDirs {t t' : FileTree} {cwd : Location} {p : Path}
    (made : t.createDir cwd p = .ok t') : KeepsDirs t t' := by
  obtain ⟨l, -, empty, rfl⟩ := createDir_ok made
  exact keepsDirs_set t (by simp [empty]) _

/-- Making a directory and those above it keeps every directory. -/
theorem createDirAll_keepsDirs {t t' : FileTree} {cwd : Location} {fuel : Nat} {p : Path}
    (made : t.createDirAll cwd fuel p = .ok t') : KeepsDirs t t' := by
  induction fuel generalizing t t' p with
  | zero => cases made; exact KeepsDirs.refl t
  | succ fuel ih =>
    unfold createDirAll at made
    split at made
    · cases made; exact KeepsDirs.refl t
    · split at made
      · cases made; exact createDir_keepsDirs (by assumption)
      · -- the parent was missing: it was made first, then the directory itself
        split at made
        · cases made
        · rename_i above _
          cases parents : t.createDirAll cwd fuel above with
          | error e => rw [parents] at made; cases made
          | ok t₁ =>
            rw [parents] at made
            dsimp only [bind, Except.bind] at made
            have first := ih parents
            split at made
            · cases made; exact first.trans (createDir_keepsDirs (by assumption))
            · split at made
              · cases made; exact first
              · cases made
      · split at made
        · cases made; exact KeepsDirs.refl t
        · cases made

end FileTree

end SyscallTables
