import SyscallTables.Target.Catalog
import SyscallTables.Toml.Parse
import SyscallTables.Toml.Decode
import SyscallTables.Files.Tree

namespace SyscallTables

/-! Catalog files: a TOML document whose array of tables `target` lists the targets, each with
the keys `os`, `arch`, `ptr-size`, `page-size`, `num-pages`, `data-offset`, `c-arch` and an
optional `syscall-numbers` (true when left out). Other keys are ignored. The targets read must
pass the catalog's checks. -/

open Toml

namespace Target

/-- The keys of a target. -/
def rules : List FieldRule :=
  [.of "os" .required Decoder.string, .of "arch" .required Decoder.string,
   .of "ptr-size" .required Decoder.unsigned, .of "page-size" .required Decoder.unsigned,
   .of "num-pages" .required Decoder.unsigned, .of "data-offset" .required Decoder.unsigned,
   .of "syscall-numbers" .defaulted Decoder.bool,
   .of "c-arch" .required (Decoder.list Decoder.string)]

/-- Decodes a target. -/
def decoder : Decoder Target :=
  record "Target" rules false fun fs => do
    pure { os := ← fs.require rules "os" Decoder.string
           arch := ← fs.require rules "arch" Decoder.string
           ptrSize := ← fs.require rules "ptr-size" Decoder.unsigned
           pageSize := ← fs.require rules "page-size" Decoder.unsigned
           numPages := ← fs.require rules "num-pages" Decoder.unsigned
           dataOffset := ← fs.require rules "data-offset" Decoder.unsigned
           syscallNumbers := ← fs.withDefault rules "syscall-numbers" Decoder.bool true
           cArch := ← fs.require rules "c-arch" (Decoder.list Decoder.string) }

end Target

namespace Catalog

/-- The keys of a catalog file. -/
def fileRules : List FieldRule := [.of "target" .defaulted (Decoder.list Target.decoder)]

/-- Decodes a catalog file into its targets. -/
def fileDecoder : Decoder (List Target) :=
  record "CatalogFile" fileRules false fun fs =>
    fs.withDefault fileRules "target" (Decoder.list Target.decoder) []

/-- The catalog a TOML text describes. -/
def ofToml (source : String) : Except CatalogError Catalog :=
  match decodeText fileDecoder Toml.parse source with
  | .error e => .error (.malformed (e.render source))
  | .ok targets => ofTargets targets

/-- The catalog a TOML file describes. -/
def load (t : FileTree) (cwd : Location) (path : Path) : Except CatalogError Catalog :=
  if !t.contains cwd path then .error (.notFound path.render)
  else
    match t.readFile cwd path with
    | .error e => .error (.io e.message)
    | .ok source => ofToml source

end Catalog

end SyscallTables
