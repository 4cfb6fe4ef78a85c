import SyscallTables.Toml.Parse
import SyscallTables.Toml.Decode
import SyscallTables.Generator.Config
import SyscallTables.Target.File

namespace SyscallTables.Command

/-! The project manifest `sysgen.toml`, looked for in the working directory and then in each
directory above it; the directory it is found in is the project root. It may override the
descriptions and executor directories and the file patterns (`[paths]`), and select the OSes
and a catalog file (`[targets]`). Unknown keys are refused. -/

open Toml

/-- The `[paths]` table. -/
structure PathsConfig where
  sys : Option String := none
  executor : Option String := none
  descriptionPattern : Option String := none
  constPattern : Option String := none
  deriving DecidableEq, Repr, Inhabited

/-- The `[targets]` table. -/
structure TargetsConfig where
  os : List String := []
  file : Option String := none
  deriving DecidableEq, Repr, Inhabited

/-- A project manifest. -/
structure Manifest where
  paths : PathsConfig := {}
  targets : TargetsConfig := {}
  deriving DecidableEq, Repr, Inhabited

/-- The name of the manifest file. -/
def manifestFile : String := "sysgen.toml"

/-- The keys of `[paths]`. -/
def pathsRules : List FieldRule :=
  [.of "sys" .defaulted Decoder.string, .of "executor" .defaulted Decoder.string,
   .of "description-pattern" .defaulted Decoder.string,
   .of "const-pattern" .defaulted Decoder.string]

/-- Decodes `[paths]`. -/
def pathsDecoder : Decoder PathsConfig :=
  record "PathsConfig" pathsRules true fun fs => do
    pure { sys := ← fs.read pathsRules "sys" Decoder.string
           executor := ← fs.read pathsRules "executor" Decoder.string
           descriptionPattern := ← fs.read pathsRules "description-pattern" Decoder.string
           constPattern := ← fs.read pathsRules "const-pattern" Decoder.string }

/-- The keys of `[targets]`. -/
def targetsRules : List FieldRule :=
  [.of "os" .defaulted (Decoder.list Decoder.string), .of "file" .defaulted Decoder.string]

/-- Decodes `[targets]`. -/
def targetsDecoder : Decoder TargetsConfig :=
  record "TargetsConfig" targetsRules true fun fs => do
    pure { os := ← fs.withDefault targetsRules "os" (Decoder.list Decoder.string) []
           file := ← fs.read targetsRules "file" Decoder.string }

/-- The keys of a manifest. -/
def manifestRules : List FieldRule :=
  [.of "paths" .defaulted pathsDecoder, .of "targets" .defaulted targetsDecoder]

/-- Decodes a manifest. -/
def manifestDecoder : Decoder Manifest :=
  record "SysgenManifest" manifestRules true fun fs => do
    pure { paths := ← fs.withDefault manifestRules "paths" pathsDecoder {}
           targets := ← fs.withDefault manifestRules "targets" targetsDecoder {} }

/-- A failure of the command, as a chain of messages from the outermost context to the
innermost cause. -/
abbrev Failure := List String

/-- Looks for the manifest from a directory upwards: the manifest and its directory, or none. -/
def findManifest (t : FileTree) : Nat → Path → Except Failure (Option (Manifest × Path))
  | 0, _ => .ok none
  | fuel + 1, dir =>
    let candidate := dir.push manifestFile
    match t.readFile [] candidate with
    | .ok source =>
      match decodeText manifestDecoder Toml.parse source with
      | .ok m => .ok (some (m, dir))
      | .error e => .error ["parsing " ++ candidate.render, e.render source]
    | .error _ =>
      match dir.parent with
      | some up => findManifest t fuel up
      | none => .ok none

/-- The generator's configuration under a project root. -/
def Manifest.config (m : Manifest) (root : Path) : GenConfig :=
  let base : GenConfig := { root }
  { base with
    sysDir := (m.paths.sys.map (⟨·⟩)).getD base.sysDir
    executorDir := (m.paths.executor.map (⟨·⟩)).getD base.executorDir
    descriptionPattern := m.paths.descriptionPattern.getD base.descriptionPattern
    constPattern := m.paths.constPattern.getD base.constPattern }

/-- The chain of messages of a catalog error: its text, then the error it wraps. -/
def CatalogError.chain : CatalogError → Failure
  | e@(.malformed m) => [e.message, m]
  | e@(.io m) => [e.message, m]
  | e => [e.message]

/-- The catalog a manifest selects under a project root. -/
def Manifest.catalog (m : Manifest) (t : FileTree) (root : Path) : Except Failure Catalog := do
  let c ← match m.targets.file with
    | some file =>
      let path := root.join ⟨file⟩
      match Catalog.load t [] path with
      | .ok c => pure c
      | .error e => throw (("loading target catalog " ++ path.render) :: CatalogError.chain e)
    | none => pure Catalog.builtin
  let c := c.retainOs m.targets.os
  if c.targets.isEmpty then
    throw ["no targets selected (os filter: " ++ ", ".intercalate m.targets.os ++ ")"]
  else pure c

end SyscallTables.Command
