import SyscallTables.Target.Validate

namespace SyscallTables

/-! Catalogs: the targets the generator knows, in the order given. A catalog is built only from
targets that pass the checks. It answers which targets an OS has (sorted by architecture),
which OSes there are (sorted, each once), and can be narrowed to some OSes. -/

/-- A list of checked targets. -/
structure Catalog where
  targets : List Target
  deriving DecidableEq, Repr, Inhabited

/-- Why a catalog could not be had. -/
inductive CatalogError
  /-- A catalog text that does not decode; the message is the full error text. -/
  | malformed (message : String)
  /-- A catalog file that could not be read. -/
  | io (message : String)
  /-- A catalog file that does not exist. -/
  | notFound (path : String)
  /-- Targets that fail the checks; the problems joined by `; `. -/
  | validation (detail : String)
  deriving DecidableEq, Repr

/-- The text of a catalog error. -/
def CatalogError.message : CatalogError → String
  | .malformed m => "TOML parse error: " ++ m
  | .io m => "I/O error: " ++ m
  | .notFound p => "target file not found: " ++ p
  | .validation d => "validation error: " ++ d

namespace Catalog

/-- The catalog of the built-in targets. -/
def builtin : Catalog := ⟨Target.builtin⟩

/-- A catalog of targets, if they pass the checks. -/
def ofTargets (targets : List Target) : Except CatalogError Catalog :=
  match Target.issues targets with
  | [] => .ok ⟨targets⟩
  | issues => .error (.validation ("; ".intercalate issues))

/-- The number of targets. -/
def size (c : Catalog) : Nat := c.targets.length

/-- The target of an OS and architecture. -/
def get? (c : Catalog) (os arch : String) : Option Target :=
  c.targets.find? fun t => t.os == os && t.arch == arch

/-- The OSes of the catalog, sorted, each once. -/
def osNames (c : Catalog) : List String :=
  ((c.targets.map (·.os)).mergeSort (fun a b => decide (a ≤ b))).eraseDups

/-- The catalog narrowed to the given OSes; no OS given keeps all. -/
def retainOs (c : Catalog) (os : List String) : Catalog :=
  if os.isEmpty then c else ⟨c.targets.filter fun t => os.contains t.os⟩

/-- The targets of each OS, sorted by architecture, for each OS in order. -/
def byOs (c : Catalog) : List (String × List Target) :=
  c.osNames.map fun os =>
    (os, (c.targets.filter (·.os == os)).mergeSort fun a b => decide (a.arch ≤ b.arch))

end Catalog

end SyscallTables
