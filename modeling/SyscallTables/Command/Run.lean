import SyscallTables.Command.Args
import SyscallTables.Command.Manifest
import SyscallTables.Generator.Run

namespace SyscallTables.Command

/-! One run of the command: read the command line, find the project, generate every selected
OS, and print each OS's summary. A failure is printed as `error: ` and its chain of messages
joined by `: `. A requested heap profile is written at the end whether or not generation
succeeded. The exit code is 0 on success, 1 on a failure, and 2 for a refused command line. -/

/-- What a run leaves: its exit code, what it printed, and the files after it. -/
structure Outcome where
  code : Nat
  stdout : String
  stderr : String
  tree : FileTree

/-- The absolute path of a location. -/
def Location.toPath (loc : Location) : Path := ⟨"/" ++ "/".intercalate loc⟩

/-- The chain of messages of a generation error: its text, then the error it wraps. -/
def GenError.chain (e : GenError) : Failure :=
  match e with
  | .format _ _ reason => [e.message, reason]
  | .createDir _ io | .readOutput _ io | .writeOutput _ io => [e.message, io.message]
  | _ => [e.message]

/-- The heap profile written for `--memprofile`. Allocation counts are not kept by this
program, so every count is zero. -/
def heapProfile : String :=
  "\x7b\n  \"allocations\": 0,\n  \"deallocations\": 0,\n" ++
    "  \"current_bytes\": 0,\n  \"peak_bytes\": 0\n\x7d\n"

/-- Generates everything the project found from the working directory selects. -/
def generate (t : FileTree) (cwd : Location) : Workspace × Except Failure Unit :=
  let here := Location.toPath cwd
  let w : Workspace := { tree := t, cwd }
  match findManifest t (cwd.length + 2) here with
  | .error f => (w, .error f)
  | .ok found =>
    let (manifest, root) := found.getD ({}, here)
    match manifest.catalog t root with
    | .error f => (w, .error f)
    | .ok catalog =>
      match w.run (manifest.config root) catalog with
      | (w, .error e) => (w, .error (GenError.chain e))
      | (w, .ok reports) => (reports.foldl (fun w r => w.say r.summary) w, .ok ())

/-- Runs the command with arguments in a working directory of a file tree. -/
def run (args : List String) (t : FileTree) (cwd : Location) : Outcome :=
  match Request.ofArgs args with
  | .help => ⟨0, helpText, "", t⟩
  | .version => ⟨0, versionText, "", t⟩
  | .refuse message => ⟨2, "", message, t⟩
  | .run profile =>
    let (w, result) := generate t cwd
    let (failed, stderr) := match result with
      | .ok () => (false, "")
      | .error chain => (true, "error: " ++ ": ".intercalate chain ++ "\n")
    let (tree, failed, stderr) := match profile with
      | none => (w.tree, failed, stderr)
      | some p =>
        match w.tree.writeFile cwd ⟨p⟩ heapProfile with
        | .ok tree => (tree, failed, stderr)
        | .error e =>
          (w.tree, true, stderr ++ "error: writing heap profile " ++ p ++ ": " ++ e.message ++ "\n")
    ⟨if failed then 1 else 0, w.console, stderr, tree⟩

end SyscallTables.Command
