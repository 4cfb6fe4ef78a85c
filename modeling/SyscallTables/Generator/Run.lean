import SyscallTables.Generator.Config
import SyscallTables.Generator.Job
import SyscallTables.Description.Reader
import SyscallTables.Constant.Loader
import SyscallTables.Program.Compile
import SyscallTables.Emit.Artifacts
import SyscallTables.Target.Catalog

namespace SyscallTables

/-! Generating the tables of every OS of a catalog. For one OS the descriptions are read once;
then each target, in architecture order, loads its constants, compiles, and stores its data
definition. The console shows one line per target followed by that target's diagnostics, and
the diagnostics of descriptions that do not read. A run stops at the first OS that fails: on an
output error (the first in architecture order is the cause; later ones are printed), on
targets that failed, or on a constant unsupported by every target. Otherwise the OS's C table
is written from the fragments of all its targets. -/

/-- What became of one target. -/
structure TargetReport where
  arch : String
  revision : String
  status : WriteStatus
  deriving DecidableEq, Repr

/-- What became of one OS. -/
structure OsReport where
  os : String
  targets : List TargetReport
  cTable : Path
  deriving DecidableEq, Repr

namespace OsReport

/-- The number of targets whose data definition was written. -/
def written (r : OsReport) : Nat := (r.targets.filter (·.status == .written)).length

/-- The number of targets whose data definition was already up to date. -/
def unchanged (r : OsReport) : Nat := (r.targets.filter (·.status == .unchanged)).length

/-- `os: n targets, w written, u unchanged`. -/
def summary (r : OsReport) : String :=
  r.os ++ ": " ++ toString r.targets.length ++ " targets, " ++ toString r.written ++ " written, " ++
    toString r.unchanged ++ " unchanged"

end OsReport

/-- The files and the console text of a run so far. -/
structure Workspace where
  tree : FileTree
  cwd : Location
  console : String := ""

namespace Workspace

/-- Prints a line. -/
def say (w : Workspace) (line : String) : Workspace :=
  { w with console := w.console ++ line ++ "\n" }

/-- Prints what a job printed: its line, its diagnostics, and its output error unless it is
the cause reported for the whole OS. -/
def printJob (w : Workspace) (isCause : Bool) (job : Job) : Workspace :=
  let w := w.say ("generating " ++ job.target.name ++ "...")
  let w := job.errors.foldl say w
  match job.outputError with
  | some e =>
    let w := match e with
      | .format _ raw _ => w.say raw
      | _ => w
    if isCause then w else w.say e.message
  | none => w

end Workspace

/-- How a part's work for one target ended: with a value, with diagnostics, or with a panic and
its message. -/
inductive Outcome (α : Type) where
  | done (value : α)
  | failed (diagnostics : List Diagnostic)
  | panicked (message : String)

/-- The outcome of work that cannot panic. -/
def Outcome.ofExcept : Except (List Diagnostic) α → Outcome α
  | .ok value => .done value
  | .error diagnostics => .failed diagnostics

/-- The parts a generator drives: a reader of an OS's descriptions, a loader of an
architecture's constants and a compiler. -/
structure Tools where
  describe : FileTree → Location → Path → Except (List Diagnostic) Description
  load : FileTree → Location → Path → String → Outcome ConstTable
  compile : Description → ConstTable → Target → Outcome Program

/-- The description files, the constant files and the layout compiler. -/
def Tools.standard : Tools where
  describe := Description.readPattern
  load t cwd pattern arch := .ofExcept (ConstFile.load t cwd pattern arch)
  compile d consts target := .ofExcept (d.compile consts target)

/-- A generator: where it reads and writes, and the parts it drives. -/
structure Generator where
  config : GenConfig
  tools : Tools := Tools.standard

namespace Generator

/-- Runs the work of one target. A panic of a part becomes a failed job. -/
def runJob (g : Generator) (d : Description) (w : Workspace) (target : Target) :
    Workspace × Job :=
  let job : Job := { target }
  match g.tools.load w.tree w.cwd (g.config.constGlob target.os) target.arch with
  | .panicked message => (w, Job.panicked target message)
  | .failed ds => (w, job.fail .input (ds.map Diagnostic.render))
  | .done consts =>
    match g.tools.compile d consts target with
    | .panicked message => (w, Job.panicked target message)
    | .failed ds => (w, job.fail .compile (ds.map Diagnostic.render))
    | .done program =>
      let artifacts := program.emit target consts g.config.template
      let path := g.config.dataDefinitionPath target.os target.arch
      match w.tree.writeDataDefinition w.cwd path artifacts.dataDefinition with
      | .error e => (w, { job.fail .output [] with outputError := some e })
      | .ok (status, tree) =>
        ({ w with tree }, { job with ok := true, unsupported := program.unsupported,
                                      revision := some artifacts.revision,
                                      archData := artifacts.archData, status := some status })

/-- Runs the work of each target in turn, one job per target in the order given. -/
def runJobs (g : Generator) (d : Description) (w : Workspace) (targets : List Target) :
    Workspace × List Job :=
  targets.foldl (fun (w, jobs) t =>
    let (w, job) := g.runJob d w t
    (w, jobs ++ [job])) (w, [])

/-- Targets in architecture order. -/
def sortByArch (targets : List Target) : List Target :=
  targets.mergeSort fun a b => decide (a.arch ≤ b.arch)

/-- Finishes an OS whose targets all succeeded: fails on a constant unsupported everywhere,
otherwise writes the C table. -/
def finish (g : Generator) (w : Workspace) (os : String) (jobs : List Job) :
    Workspace × Except GenError OsReport :=
  match checkUnsupported os jobs with
  | .error e => (w, .error e)
  | .ok () =>
    let cTable := g.config.cTablePath os
    match w.tree.writeCTable w.cwd cTable (jobs.map (·.archData)) with
    | .error e => (w, .error e)
    | .ok tree =>
      let reports := jobs.filterMap fun j =>
        match j.revision, j.status with
        | some r, some s => some ⟨j.target.arch, r, s⟩
        | _, _ => none
      ({ w with tree }, .ok ⟨os, reports, cTable⟩)

/-- Decides an OS once all its jobs are done: prints every job, then fails on the first output
error or on failed targets; otherwise finishes it. -/
def conclude (g : Generator) (w : Workspace) (os : String) (jobs : List Job) :
    Workspace × Except GenError OsReport :=
  let cause := jobs.findIdx? (·.outputError.isSome)
  let w := jobs.zipIdx.foldl (fun w (job, i) => w.printJob (cause == some i) job) w
  match cause.bind (jobs[·]?) |>.bind (·.outputError) with
  | some e => (w, .error e)
  | none =>
    let failed := jobs.filter (!·.ok)
    match failed.head? with
    | some first =>
      (w, .error (.targetsFailed os (failed.map (·.target.name)) (first.failure.getD .compile)))
    | none => g.finish w os jobs

/-- Generates the tables of one OS for the given targets. -/
def generateOs (g : Generator) (w : Workspace) (os : String) (targets : List Target) :
    Workspace × Except GenError OsReport :=
  match g.tools.describe w.tree w.cwd (g.config.descriptionGlob os) with
  | .error ds =>
    let w := ds.foldl (fun w d => w.say d.render) w
    (w, .error (.parse os ds.length))
  | .ok d =>
    let (w, jobs) := g.runJobs d w (sortByArch targets)
    g.conclude w os jobs

/-- Generates the tables of every OS of a catalog, in OS order, stopping at the first
failure. -/
def run (g : Generator) (w : Workspace) (c : Catalog) :
    Workspace × Except GenError (List OsReport) :=
  c.byOs.foldl (fun (w, acc) (os, targets) =>
    match acc with
    | .error e => (w, .error e)
    | .ok reports =>
      match g.generateOs w os targets with
      | (w, .ok r) => (w, .ok (reports ++ [r]))
      | (w, .error e) => (w, .error e)) (w, .ok [])

end Generator

namespace Workspace

/-- Generates the tables of one OS with the standard parts. -/
def generateOs (config : GenConfig) (w : Workspace) (os : String) (targets : List Target) :
    Workspace × Except GenError OsReport :=
  Generator.generateOs { config } w os targets

/-- Generates the tables of every OS of a catalog with the standard parts. -/
def run (config : GenConfig) (w : Workspace) (c : Catalog) :
    Workspace × Except GenError (List OsReport) :=
  Generator.run { config } w c

end Workspace

end SyscallTables
