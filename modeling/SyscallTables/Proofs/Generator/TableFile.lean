import SyscallTables.Proofs.Emit.Blocks
import SyscallTables.Proofs.Emit.Revision
import SyscallTables.Proofs.Compile.Numbering
import SyscallTables.Proofs.Generator.Decision
import SyscallTables.Proofs.Generator.Paths
import SyscallTables.Proofs.Generator.Storing

namespace SyscallTables

open Compile

/-! The C table an OS run writes. When the run succeeds, every target compiled, and the table
file holds the header and then one block per target, in architecture order, each rendered from
that target's program: its count line states the number of syscalls compiled, and it has a row
for each. Cut at every newline followed by `#if `, the file falls into exactly these blocks,
each opened by its target's guard, provided no syscall name, call name, architecture or macro
holds a newline: the names are copied into the text as they are. -/

/-! ## What each target contributes -/

/-- What a target contributed to its OS's table: the constants it was compiled with and the
program compiled. -/
structure Contribution where
  target : Target
  consts : ConstTable
  program : Program

/-- What the block of a contribution shows: the program's syscalls for its target, under the
revision of its data definition. -/
def Contribution.data (c : Contribution) (template : CTemplate) : ArchData :=
  ArchData.ofProgram c.target (c.program.emit c.target c.consts template).revision
    c.program.syscalls

theorem syscallRows_length (t : Target) (calls : List Syscall) :
    (syscallRows t calls).length = calls.length := by
  simp [syscallRows, List.length_mergeSort]

theorem syscallRows_named {t : Target} {calls : List Syscall} {r : CRow}
    (member : r ∈ syscallRows t calls) :
    ∃ c ∈ calls, r.name = c.name ∧ r.callName = c.callName := by
  rw [syscallRows, (List.mergeSort_perm _ _).mem_iff, List.mem_map] at member
  obtain ⟨c, called, rfl⟩ := member
  exact ⟨c, called, rfl, rfl⟩

/-- A contribution whose syscalls, architecture and macros hold no newline shows a plain block:
its revision is hexadecimal. -/
theorem Contribution.data_plain (c : Contribution) (template : CTemplate)
    (names : ∀ s ∈ c.program.syscalls, '\n' ∉ s.name.toList ∧ '\n' ∉ s.callName.toList)
    (arch : '\n' ∉ c.target.arch.toList) (macros : ∀ m ∈ c.target.cArch, '\n' ∉ m.toList) :
    (c.data template).Plain where
  arch := arch
  cArch := macros
  revision member := by
    have hex := (emit_stamped template c.target c.program c.consts).digits.2 '\n' member
    simp [Sha256.IsLowerHex] at hex
  rows r member := by
    obtain ⟨s, called, name, callName⟩ := syscallRows_named member
    rw [name, callName]
    exact names s called

theorem exists_contributions (jobs : List Job) (P : Contribution → Prop)
    (F : Contribution → String)
    (each : ∀ job ∈ jobs, ∃ c : Contribution, job.target = c.target ∧ P c ∧ job.archData = F c) :
    ∃ parts : List Contribution, jobs.map (·.target) = parts.map (·.target) ∧
      (∀ c ∈ parts, P c) ∧ jobs.map (·.archData) = parts.map F := by
  induction jobs with
  | nil => exact ⟨[], rfl, by simp, rfl⟩
  | cons job rest ih =>
    obtain ⟨c, target, holds, data⟩ := each job (List.mem_cons_self ..)
    obtain ⟨parts, targets, allHold, datas⟩ :=
      ih fun j member => each j (List.mem_cons_of_mem _ member)
    refine ⟨c :: parts, by simp [target, targets], fun c' member => ?_, by simp [data, datas]⟩
    rcases List.mem_cons.mp member with rfl | later
    · exact holds
    · exact allHold c' later

theorem Outcome.ofExcept_done {α : Type} {e : Except (List Diagnostic) α} {v : α}
    (done : Outcome.ofExcept e = .done v) : e = .ok v := by
  cases e with
  | error => cases done
  | ok a =>
    cases done
    rfl

/-- A job that succeeded compiled its target and rendered that program's block. -/
theorem Job.Ends.compiled {g : Generator} {d : Description} {tree : FileTree} {cwd : Location}
    {job : Job} (ends : job.Ends g d tree cwd) (ok : job.ok = true) :
    ∃ consts p, g.tools.compile d consts job.target = .done p ∧
      job.archData = (p.emit job.target consts g.config.template).archData := by
  cases ends with
  | succeeded t consts p status tree' loaded compiled stored => exact ⟨consts, p, compiled, rfl⟩
  | _ => simp at ok

namespace Generator

/-- Finishing an OS writes its table: the header and every job's block, in job order. -/
theorem finish_written {g : Generator} {w : Workspace} {os : String} {jobs : List Job}
    {report : OsReport} (finished : (g.finish w os jobs).2 = .ok report) :
    (g.finish w os jobs).1.tree.readFile w.cwd (g.config.cTablePath os) =
      .ok (cTableHeader ++ String.join (jobs.map (·.archData))) := by
  unfold finish at finished ⊢
  cases checked : checkUnsupported os jobs with
  | error e => simp [checked] at finished
  | ok u =>
    cases written : w.tree.writeCTable w.cwd (g.config.cTablePath os) (jobs.map (·.archData)) with
    | error e => simp [checked, written] at finished
    | ok tree =>
      simp only [written]
      exact FileTree.readFile_storeOutput written

/-- An OS generated without error read its descriptions, ran one job per target in
architecture order, saw every one of them succeed, and was finished. -/
theorem generateOs_finished {g : Generator} {w : Workspace} {os : String}
    {targets : List Target} {report : OsReport}
    (generated : (g.generateOs w os targets).2 = .ok report) :
    ∃ d w' jobs, g.tools.describe w.tree w.cwd (g.config.descriptionGlob os) = .ok d ∧
      w'.cwd = w.cwd ∧ jobs.map (·.target) = sortByArch targets ∧
      (∀ job ∈ jobs, job.ok = true ∧ ∃ seen, job.Ends g d seen w.cwd) ∧
      g.generateOs w os targets = g.finish w' os jobs := by
  unfold generateOs at generated ⊢
  cases read : g.tools.describe w.tree w.cwd (g.config.descriptionGlob os) with
  | error ds => simp [read] at generated
  | ok d =>
    obtain ⟨tree, jobs, ran, named, ended⟩ := g.runJobs_spec d (sortByArch targets) w
    rw [read] at generated
    dsimp only at generated ⊢
    rw [ran] at generated ⊢
    have decided := g.conclude_decided ⟨tree, w.cwd, w.console⟩ os jobs
    generalize g.conclude ⟨tree, w.cwd, w.console⟩ os jobs = result at decided generated ⊢
    cases decided with
    | outputError => simp at generated
    | targetsFailed => simp at generated
    | finished clean succeeded =>
      exact ⟨d, { tree, cwd := w.cwd, console := w.console ++
        consoleText (jobs.flatMap (·.shown false)) }, jobs, rfl, rfl, named,
        fun job member => ⟨succeeded job member, ended job member⟩, rfl⟩

end Generator

/-! ## The table of an OS -/

open Description in
/-- What the table file of an OS holds once it is generated from descriptions `d` for `targets`:
one contribution per target, in strictly ascending architecture order, each the program its
target compiles to, the text being the header and their blocks. When the template is plain and
no syscall name, call name, architecture or macro holds a newline, cutting the text at every
newline followed by `#if ` gives the header and then exactly these blocks, in order. -/
structure TableWritten (config : GenConfig) (targets : List Target) (d : Description)
    (parts : List Contribution) (text : String) : Prop where
  permuted : (parts.map (·.target)).Perm targets
  ascending : (parts.map (·.target.arch)).Pairwise (· < ·)
  compiled : ∀ c ∈ parts, d.compile c.consts c.target = .ok c.program
  content : text = cTableHeader ++
    String.join (parts.map fun c => config.template.render (c.data config.template))
  blocks : config.template.Plain →
    (∀ s ∈ d.syscalls, '\n' ∉ s.name.toList ∧ '\n' ∉ s.callName.toList) →
    (∀ t ∈ targets, '\n' ∉ t.arch.toList ∧ ∀ m ∈ t.cArch, '\n' ∉ m.toList) →
    (splitText "\n#if ".toList text.toList).head? = some cTableHeader.toList ∧
    List.Forall₂ (fun block c => CTemplate.BlockShows config.template c.target.cArch
      c.program.syscalls.length block) (splitText "\n#if ".toList text.toList).tail parts

/-- The blocks of plain contributions show their targets' guards and syscall counts. -/
theorem splitText_contributions {template : CTemplate} (plainTemplate : template.Plain)
    (parts : List Contribution) (plainData : ∀ c ∈ parts, (c.data template).Plain) :
    (splitText "\n#if ".toList (cTableHeader ++
        String.join (parts.map fun c => template.render (c.data template))).toList).head? =
      some cTableHeader.toList ∧
    List.Forall₂ (fun block c => CTemplate.BlockShows template c.target.cArch
      c.program.syscalls.length block)
      (splitText "\n#if ".toList (cTableHeader ++
        String.join (parts.map fun c => template.render (c.data template))).toList).tail
      parts := by
  have datas := CTemplate.splitText_cTable plainTemplate (parts.map (·.data template))
    (by simpa using plainData)
  rw [List.map_map] at datas
  rw [show (fun c : Contribution => template.render (c.data template)) =
    template.render ∘ (·.data template) from rfl, datas]
  refine ⟨rfl, ?_⟩
  rw [List.tail_cons, List.map_map, List.forall₂_map_left_iff, List.forall₂_same]
  intro c member
  have shows := CTemplate.blockText_shows plainTemplate (plainData c member)
  rwa [Contribution.data, ArchData.ofProgram, syscallRows_length] at shows

end SyscallTables
