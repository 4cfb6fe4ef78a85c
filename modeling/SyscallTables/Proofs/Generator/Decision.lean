import SyscallTables.Generator.Run

namespace SyscallTables

/-! How generating one OS decides. Every target's job runs first, in architecture order, and
prints nothing; only then is the OS decided and every job printed. The first output error in
architecture order is the result, and is the one output error whose text is not printed;
without one, failed targets make the result; only when all succeeded is the OS finished. -/

/-- Lines as the console shows them, each ended by a newline. -/
def consoleText (lines : List String) : String := String.join (lines.map (· ++ "\n"))

@[simp] theorem consoleText_nil : consoleText [] = "" := rfl

@[simp] theorem consoleText_append (a b : List String) :
    consoleText (a ++ b) = consoleText a ++ consoleText b := by
  simp [consoleText, String.join_append]

namespace Job

/-- What the console shows of a finished job: its line, its diagnostic lines, the raw text of
an output that is not JSON, and its output error unless that error is the cause of the OS's
failure. -/
def shown (job : Job) (isCause : Bool) : List String :=
  ("generating " ++ job.target.name ++ "...") :: job.errors ++
    match job.outputError with
    | some e =>
      (match e with
        | .format _ raw _ => [raw]
        | _ => []) ++ if isCause then [] else [e.message]
    | none => []

/-- How the work for one target ended, given the tree it saw: a part panicked, the constants
or the compiler gave diagnostics, the data definition could not be stored, or it was. -/
inductive Ends (g : Generator) (d : Description) (tree : FileTree) (cwd : Location) :
    Job → Prop
  | panicked (t : Target) (message : String)
      (panic : g.tools.load tree cwd (g.config.constGlob t.os) t.arch = .panicked message ∨
        ∃ consts, g.tools.load tree cwd (g.config.constGlob t.os) t.arch = .done consts ∧
          g.tools.compile d consts t = .panicked message) :
      Ends g d tree cwd
        { target := t, failure := some .compile,
          errors := [t.name ++ ": generation task panicked: " ++ message] }
  | loadFailed (t : Target) (ds : List Diagnostic)
      (failed : g.tools.load tree cwd (g.config.constGlob t.os) t.arch = .failed ds) :
      Ends g d tree cwd { target := t, failure := some .input, errors := ds.map (·.render) }
  | compileFailed (t : Target) (consts : ConstTable) (ds : List Diagnostic)
      (loaded : g.tools.load tree cwd (g.config.constGlob t.os) t.arch = .done consts)
      (failed : g.tools.compile d consts t = .failed ds) :
      Ends g d tree cwd { target := t, failure := some .compile, errors := ds.map (·.render) }
  | outputFailed (t : Target) (consts : ConstTable) (p : Program) (e : GenError)
      (loaded : g.tools.load tree cwd (g.config.constGlob t.os) t.arch = .done consts)
      (compiled : g.tools.compile d consts t = .done p)
      (refused : tree.writeDataDefinition cwd (g.config.dataDefinitionPath t.os t.arch)
        (p.emit t consts g.config.template).dataDefinition = .error e) :
      Ends g d tree cwd { target := t, failure := some .output, outputError := some e }
  | succeeded (t : Target) (consts : ConstTable) (p : Program) (status : WriteStatus)
      (tree' : FileTree)
      (loaded : g.tools.load tree cwd (g.config.constGlob t.os) t.arch = .done consts)
      (compiled : g.tools.compile d consts t = .done p)
      (stored : tree.writeDataDefinition cwd (g.config.dataDefinitionPath t.os t.arch)
        (p.emit t consts g.config.template).dataDefinition = .ok (status, tree')) :
      Ends g d tree cwd
        { target := t, ok := true, unsupported := p.unsupported,
          revision := some (p.emit t consts g.config.template).revision,
          archData := (p.emit t consts g.config.template).archData, status := some status }

end Job

namespace Workspace

theorem foldl_say (lines : List String) (w : Workspace) :
    lines.foldl say w = { w with console := w.console ++ consoleText lines } := by
  induction lines generalizing w with
  | nil => simp
  | cons line lines ih =>
    rw [List.foldl_cons, ih]
    simp [say, consoleText, String.append_assoc]

theorem printJob_eq (w : Workspace) (isCause : Bool) (job : Job) :
    w.printJob isCause job = { w with console := w.console ++ consoleText (job.shown isCause) } := by
  dsimp only [printJob, Job.shown]
  rw [foldl_say]
  -- the output error, if any, adds its raw text and then its message
  cases job.outputError with
  | none => simp [say, consoleText, String.append_assoc]
  | some e =>
    cases isCause <;> cases e <;> simp [say, consoleText, String.append_assoc]

end Workspace

namespace Generator

variable (g : Generator) (d : Description)

/-- One job never prints, keeps the current directory, and records how its target ended. -/
theorem runJob_spec (w : Workspace) (t : Target) :
    (g.runJob d w t).1.console = w.console ∧ (g.runJob d w t).1.cwd = w.cwd ∧
      (g.runJob d w t).2.target = t ∧ (g.runJob d w t).2.Ends g d w.tree w.cwd := by
  unfold runJob
  -- one case per way the parts can answer
  cases loaded : g.tools.load w.tree w.cwd (g.config.constGlob t.os) t.arch with
  | panicked message =>
    exact ⟨rfl, rfl, rfl, .panicked t message (.inl loaded)⟩
  | failed ds => exact ⟨rfl, rfl, rfl, .loadFailed t ds loaded⟩
  | done consts =>
    dsimp only
    cases compiled : g.tools.compile d consts t with
    | panicked message =>
      exact ⟨rfl, rfl, rfl, .panicked t message (.inr ⟨consts, loaded, compiled⟩)⟩
    | failed ds => exact ⟨rfl, rfl, rfl, .compileFailed t consts ds loaded compiled⟩
    | done p =>
      dsimp only
      cases stored : w.tree.writeDataDefinition w.cwd (g.config.dataDefinitionPath t.os t.arch)
          (p.emit t consts g.config.template).dataDefinition with
      | error e => exact ⟨rfl, rfl, rfl, .outputFailed t consts p e loaded compiled stored⟩
      | ok result =>
        obtain ⟨status, tree⟩ := result
        exact ⟨rfl, rfl, rfl, .succeeded t consts p status tree loaded compiled stored⟩

/-- The jobs run one per target in the order given, print nothing and keep the current
directory; each records how its target ended on the tree the jobs before it left. -/
theorem runJobs_spec (targets : List Target) (w : Workspace) :
    ∃ tree jobs, g.runJobs d w targets = (⟨tree, w.cwd, w.console⟩, jobs) ∧
      jobs.map (·.target) = targets ∧ ∀ job ∈ jobs, ∃ seen, job.Ends g d seen w.cwd := by
  -- the fold appends one job per target to what it was given
  suffices folded : ∀ (w : Workspace) (acc : List Job), ∃ tree jobs,
      targets.foldl (fun state t =>
          ((g.runJob d state.1 t).1, state.2 ++ [(g.runJob d state.1 t).2])) (w, acc) =
          (⟨tree, w.cwd, w.console⟩, acc ++ jobs) ∧
        jobs.map (·.target) = targets ∧ ∀ job ∈ jobs, ∃ seen, job.Ends g d seen w.cwd by
    obtain ⟨tree, jobs, ran, named, ended⟩ := folded w []
    exact ⟨tree, jobs, ran, named, ended⟩
  induction targets with
  | nil => exact fun w acc => ⟨w.tree, [], by simp, rfl, by simp⟩
  | cons t targets ih =>
    intro w acc
    obtain ⟨console, cwd, target, ends⟩ := g.runJob_spec d w t
    obtain ⟨tree, jobs, ran, named, ended⟩ := ih (g.runJob d w t).1 (acc ++ [(g.runJob d w t).2])
    refine ⟨tree, (g.runJob d w t).2 :: jobs, ?_, by simp [target, named], ?_⟩
    · rw [List.foldl_cons]
      simpa [console, cwd] using ran
    · intro job member
      rcases List.mem_cons.mp member with rfl | later
      · exact ⟨w.tree, ends⟩
      · obtain ⟨seen, ends'⟩ := ended job later
        exact ⟨seen, cwd ▸ ends'⟩

/-- Targets with distinct architectures are run in strictly ascending architecture order. -/
theorem sortByArch_spec (targets : List Target) (distinct : (targets.map (·.arch)).Nodup) :
    (sortByArch targets).Perm targets ∧ ((sortByArch targets).map (·.arch)).Pairwise (· < ·) := by
  have perm := List.mergeSort_perm targets fun a b => decide (a.arch ≤ b.arch)
  have trans : ∀ a b c : Target, decide (a.arch ≤ b.arch) = true →
      decide (b.arch ≤ c.arch) = true → decide (a.arch ≤ c.arch) = true := by
    intro a b c ab bc
    simp only [decide_eq_true_eq] at ab bc ⊢
    exact String.le_trans ab bc
  have total : ∀ a b : Target, (decide (a.arch ≤ b.arch) || decide (b.arch ≤ a.arch)) = true := by
    intro a b
    simpa using String.le_total a.arch b.arch
  have sorted := List.pairwise_mergeSort trans total targets
  have nodup : ((sortByArch targets).map (·.arch)).Nodup := (perm.map _).nodup_iff.mpr distinct
  refine ⟨perm, ?_⟩
  rw [List.Nodup, List.pairwise_map] at nodup
  rw [List.pairwise_map]
  -- ascending and pairwise distinct, hence strictly ascending
  exact (nodup.and sorted).imp fun ⟨different, le⟩ =>
    String.not_le.mp fun ge => different (String.le_antisymm (of_decide_eq_true le) ge)

end Generator

namespace Workspace

/-- Printing entries of jobs numbered from their position, `cause` being the number of the job
whose output error decides the OS. -/
theorem foldl_printJob (cause : Option Nat) (entries : List (Job × Nat)) (w : Workspace) :
    entries.foldl (fun w (job, i) => w.printJob (cause == some i) job) w =
      { w with console := w.console ++
        consoleText (entries.flatMap fun (job, i) => job.shown (cause == some i)) } := by
  induction entries generalizing w with
  | nil => simp
  | cons entry entries ih =>
    obtain ⟨job, i⟩ := entry
    rw [List.foldl_cons, ih]
    dsimp only
    rw [printJob_eq]
    simp [String.append_assoc]

theorem flatMap_shown_of_ne (cause : Option Nat) (jobs : List Job) (n : Nat)
    (others : ∀ k, n ≤ k → k < n + jobs.length → cause ≠ some k) :
    (jobs.zipIdx n).flatMap (fun (job, i) => job.shown (cause == some i)) =
      jobs.flatMap (·.shown false) := by
  induction jobs generalizing n with
  | nil => rfl
  | cons job jobs ih =>
    have first : (cause == some n) = false :=
      beq_eq_false_iff_ne.mpr (others n (Nat.le_refl n) (by simp))
    have rest := ih (n + 1) fun k above below => others k (by omega) (by simp; omega)
    simp [first, rest]

end Workspace

namespace Generator

/-- How an OS is decided once all its jobs are done, from the workspace they left: the first
output error in job order is the result and the one output error not displayed; without one,
failed targets are the result, named in job order with the kind of the first failure; only
when every job succeeded is the OS finished. -/
inductive Decided (g : Generator) (w : Workspace) (os : String) (jobs : List Job) :
    Workspace × Except GenError OsReport → Prop
  | outputError (before : List Job) (job : Job) (after : List Job) (e : GenError)
      (split : jobs = before ++ job :: after) (clean : ∀ j ∈ before, j.outputError = none)
      (failed : job.outputError = some e) :
      Decided g w os jobs
        ({ w with console := w.console ++ consoleText (before.flatMap (·.shown false) ++
            job.shown true ++ after.flatMap (·.shown false)) }, .error e)
  | targetsFailed (first : Job) (rest : List Job) (clean : ∀ j ∈ jobs, j.outputError = none)
      (failed : jobs.filter (!·.ok) = first :: rest) :
      Decided g w os jobs
        ({ w with console := w.console ++ consoleText (jobs.flatMap (·.shown false)) },
          .error (.targetsFailed os ((first :: rest).map (·.target.name))
            (first.failure.getD .compile)))
  | finished (clean : ∀ j ∈ jobs, j.outputError = none) (succeeded : ∀ j ∈ jobs, j.ok = true) :
      Decided g w os jobs
        (g.finish { w with console := w.console ++ consoleText (jobs.flatMap (·.shown false)) }
          os jobs)

theorem conclude_decided (g : Generator) (w : Workspace) (os : String) (jobs : List Job) :
    g.Decided w os jobs (g.conclude w os jobs) := by
  cases found : jobs.find? (·.outputError.isSome) with
  | some job =>
    -- the first job with an output error splits the jobs
    obtain ⟨some', before, after, split, earlier⟩ := List.find?_eq_some_iff_append.mp found
    obtain ⟨e, failed⟩ := Option.isSome_iff_exists.mp some'
    have clean : ∀ j ∈ before, j.outputError = none := fun j member => by
      simpa using earlier j member
    subst split
    have cause : (before ++ job :: after).findIdx? (·.outputError.isSome) = some before.length := by
      rw [List.findIdx?_append, List.findIdx?_eq_none_iff.mpr (by simpa using clean),
        List.findIdx?_cons]
      simp [failed]
    have picked : (before ++ job :: after)[before.length]? = some job := by
      simp
    have shownBefore := Workspace.flatMap_shown_of_ne (some before.length) before 0
      fun k _ below => by simp at below ⊢; omega
    have shownAfter := Workspace.flatMap_shown_of_ne (some before.length) after
      (before.length + 1) fun k above _ => by simp at above ⊢; omega
    unfold conclude
    simp only [cause, Workspace.foldl_printJob, List.zipIdx_append, List.zipIdx_cons,
      List.flatMap_append, List.flatMap_cons, shownBefore, shownAfter, Option.bind_some, picked,
      failed, Nat.zero_add, beq_self_eq_true, ← List.append_assoc]
    exact .outputError before job after e rfl clean failed
  | none =>
    have clean : ∀ j ∈ jobs, j.outputError = none := fun j member => by
      simpa using List.find?_eq_none.mp found j member
    have cause : jobs.findIdx? (·.outputError.isSome) = none :=
      List.findIdx?_eq_none_iff.mpr (by simpa using clean)
    have shown := Workspace.flatMap_shown_of_ne none jobs 0 fun _ _ _ => by simp
    unfold conclude
    simp only [cause, Workspace.foldl_printJob, shown, Option.bind_none]
    -- without an output error, the failed targets decide
    cases failedJobs : jobs.filter (!·.ok) with
    | cons first rest => exact .targetsFailed first rest clean failedJobs
    | nil =>
      have succeeded : ∀ j ∈ jobs, j.ok = true := fun j member => by
        simpa using List.filter_eq_nil_iff.mp failedJobs j member
      exact .finished clean succeeded

/-- What generating one OS does. When its descriptions do not read, it prints exactly their
diagnostics, runs no job, touches no file, and fails counting them. Otherwise one job per
target runs first, in strictly ascending architecture order and printing nothing; only then is
the OS decided, from the tree the jobs left. -/
structure GeneratesOs (g : Generator) (w : Workspace) (os : String) (targets : List Target) :
    Prop where
  unread : ∀ ds, g.tools.describe w.tree w.cwd (g.config.descriptionGlob os) = .error ds →
    g.generateOs w os targets =
      ({ w with console := w.console ++ consoleText (ds.map (·.render)) },
        .error (.parse os ds.length))
  read : ∀ d, g.tools.describe w.tree w.cwd (g.config.descriptionGlob os) = .ok d →
    ∃ tree jobs, g.runJobs d w (sortByArch targets) = (⟨tree, w.cwd, w.console⟩, jobs) ∧
      (jobs.map (·.target)).Perm targets ∧ (jobs.map (·.target.arch)).Pairwise (· < ·) ∧
      (∀ job ∈ jobs, ∃ seen, job.Ends g d seen w.cwd) ∧
      g.Decided ⟨tree, w.cwd, w.console⟩ os jobs (g.generateOs w os targets)

theorem generateOs_decides_after_every_job (g : Generator) (w : Workspace) (os : String)
    (targets : List Target) (distinct : (targets.map (·.arch)).Nodup) :
    g.GeneratesOs w os targets := by
  constructor
  · intro ds unread
    have printed : ds.foldl (fun w d => w.say d.render) w = (ds.map (·.render)).foldl Workspace.say w :=
      (List.foldl_map ..).symm
    unfold generateOs
    rw [unread]
    dsimp only
    rw [printed, Workspace.foldl_say]
  · intro d read
    obtain ⟨perm, ascending⟩ := sortByArch_spec targets distinct
    obtain ⟨tree, jobs, ran, named, ended⟩ := g.runJobs_spec d (sortByArch targets) w
    have archs : jobs.map (·.target.arch) = (sortByArch targets).map (·.arch) := by
      rw [← named, List.map_map]
      rfl
    refine ⟨tree, jobs, ran, named ▸ perm, archs ▸ ascending, ended, ?_⟩
    -- all jobs have run before anything is decided
    unfold generateOs
    rw [read]
    dsimp only
    rw [ran]
    exact g.conclude_decided _ os jobs

/-- Two targets whose compiler panics. -/
theorem panicking_targets_generate :
    ([Target.make "linux" "amd64" 8 [], Target.make "linux" "386" 4 []].map (·.arch)).Nodup ∧
      GeneratesOs ⟨{}, ⟨fun _ _ _ => .ok {}, fun _ _ _ _ => .done {}, fun _ _ _ => .panicked "oops"⟩⟩
        ⟨{}, [], ""⟩ "linux" [Target.make "linux" "amd64" 8 [], Target.make "linux" "386" 4 []] := by
  have distinct :
      ([Target.make "linux" "amd64" 8 [], Target.make "linux" "386" 4 []].map (·.arch)).Nodup := by
    decide
  exact ⟨distinct, generateOs_decides_after_every_job _ _ _ _ distinct⟩

end Generator

end SyscallTables
