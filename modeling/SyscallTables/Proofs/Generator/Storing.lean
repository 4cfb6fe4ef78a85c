import SyscallTables.Proofs.Files.Frame
import SyscallTables.Generator.Run

namespace SyscallTables

/-! Storing data definitions. A data definition is stored in canonical form; storing reports
whether the file already held that text, and a file stored once is found up to date the next
time the same text is stored. A target whose work fails at any point leaves the files as they
were. -/

namespace FileTree

/-- The last step of a store writes the file, and succeeds exactly when the write does. -/
theorem writeStep_ok {t₁ t' : FileTree} {cwd : Location} {path : Path} {content : String}
    (result : (match t₁.writeFile cwd path content with
      | .ok t' => pure t'
      | .error e => throw (GenError.writeOutput path e) : Except GenError FileTree) = .ok t') :
    t₁.writeFile cwd path content = .ok t' := by
  cases file : t₁.writeFile cwd path content with
  | error e => rw [file] at result; cases result
  | ok t₂ => rw [file] at result; cases result; rfl

/-- What a successful store did: made the directories above the file, keeping every directory
there was, then wrote the file. -/
theorem storeOutput_ok {t t' : FileTree} {cwd : Location} {path : Path} {content : String}
    (stored : t.storeOutput cwd path content = .ok t') :
    ∃ t₁, KeepsDirs t t₁ ∧ t₁.writeFile cwd path content = .ok t' := by
  unfold storeOutput at stored
  -- first the directories above, then the file
  split at stored
  · split at stored
    · exact ⟨t, KeepsDirs.refl t, writeStep_ok stored⟩
    · split at stored
      · rename_i made
        exact ⟨_, createDirAll_keepsDirs made, writeStep_ok stored⟩
      · cases stored
  · exact ⟨t, KeepsDirs.refl t, writeStep_ok stored⟩

theorem readFile_storeOutput {t t' : FileTree} {cwd : Location} {path : Path} {content : String}
    (stored : t.storeOutput cwd path content = .ok t') : t'.readFile cwd path = .ok content := by
  obtain ⟨t₁, -, written⟩ := storeOutput_ok stored
  exact readFile_writeFile written

section DataDefinition

variable {t : FileTree} {cwd : Location} {path : Path} {raw formatted : String}

/-- Storing a data definition once it is formatted: up to date when the file holds the
canonical text, stored when it holds another or is missing, and a read error otherwise. -/
theorem writeDataDefinition_formatted (canonical : Json.canonicalize raw = .ok formatted) :
    t.writeDataDefinition cwd path raw =
      match t.readFile cwd path with
      | .ok existing =>
        if existing = formatted then .ok (.unchanged, t)
        else (t.storeOutput cwd path formatted).bind fun t' => .ok (.written, t')
      | .error .notFound => (t.storeOutput cwd path formatted).bind fun t' => .ok (.written, t')
      | .error e => .error (.readOutput path e) := by
  unfold writeDataDefinition
  rw [canonical]
  rfl

theorem writeDataDefinition_format_error {e : Json.Error} (bad : Json.canonicalize raw = .error e) :
    t.writeDataDefinition cwd path raw = .error (.format path raw e.message) := by
  unfold writeDataDefinition
  rw [bad]
  rfl

theorem writeDataDefinition_read_error (canonical : Json.canonicalize raw = .ok formatted)
    {e : IoError} (unreadable : t.readFile cwd path = .error e) (present : e ≠ .notFound) :
    t.writeDataDefinition cwd path raw = .error (.readOutput path e) := by
  rw [writeDataDefinition_formatted canonical, unreadable]
  cases e with
  | notFound => exact absurd rfl present
  | notADirectory => rfl
  | isADirectory => rfl
  | alreadyExists => rfl

/-- A stored data definition ends up holding the canonical text; it is reported up to date
exactly when the file held that text already, and then nothing changed. -/
theorem writeDataDefinition_ok (canonical : Json.canonicalize raw = .ok formatted)
    {status : WriteStatus} {t' : FileTree}
    (stored : t.writeDataDefinition cwd path raw = .ok (status, t')) :
    t'.readFile cwd path = .ok formatted ∧
      (status = .unchanged ↔ t.readFile cwd path = .ok formatted) ∧
      (status = .unchanged → t' = t) := by
  rw [writeDataDefinition_formatted canonical] at stored
  have written : ∀ {result : Except GenError FileTree},
      result.bind (fun t' => .ok (.written, t')) = .ok (status, t') →
      (∀ t₂, result = .ok t₂ → t₂.readFile cwd path = .ok formatted) →
      status = .written ∧ t'.readFile cwd path = .ok formatted := by
    intro result bound reads
    cases result with
    | error e => cases bound
    | ok t₂ =>
      simp only [Except.bind, Except.ok.injEq, Prod.mk.injEq] at bound
      obtain ⟨rfl, rfl⟩ := bound
      exact ⟨rfl, reads _ rfl⟩
  cases read : t.readFile cwd path with
  | ok existing =>
    rw [read] at stored
    dsimp only at stored
    by_cases same : existing = formatted
    · rw [if_pos same] at stored
      cases stored
      exact ⟨by rw [read, same], by simp [same], fun _ => rfl⟩
    · rw [if_neg same] at stored
      obtain ⟨rfl, reads⟩ := written stored fun _ done => readFile_storeOutput done
      exact ⟨reads, by simp [same], by simp⟩
  | error e =>
    rw [read] at stored
    cases e with
    | notFound =>
      obtain ⟨rfl, reads⟩ := written stored fun _ done => readFile_storeOutput done
      exact ⟨reads, by simp, by simp⟩
    | _ => cases stored

end DataDefinition

end FileTree

namespace Generator

/-- A target whose work failed leaves the workspace as it was. -/
theorem runJob_failed_keeps (g : Generator) (d : Description) (w : Workspace) (target : Target)
    (failed : (g.runJob d w target).2.ok = false) : (g.runJob d w target).1 = w := by
  unfold runJob at failed ⊢
  split
  · rfl
  · rfl
  · split
    · rfl
    · rfl
    · dsimp only at failed ⊢
      split
      · rfl
      · -- a stored data definition makes the job succeed
        simp_all

end Generator

end SyscallTables
