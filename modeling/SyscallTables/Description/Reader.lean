import SyscallTables.Description.Ast
import SyscallTables.Toml.Parse
import SyscallTables.Toml.Decode
import SyscallTables.Files.Pattern
import SyscallTables.Text.Blank

namespace SyscallTables.Description

/-! Reading description files. A file is a TOML document with arrays of tables `resource`,
`struct` and `syscall`; no other key is allowed, at the top or inside an entry. Strings that
are types are read as type expressions, each at the position of its string. Every problem
becomes a diagnostic: one for a file that does not decode, one for each type expression that
does not read (its item, field or return type is then left out), and, across all files, one for
each type defined twice or redefining a builtin and for each syscall defined twice. -/

open Toml

/-- A string with the span it was read from. -/
abbrev Spanned := String × Span

/-- A field entry: a name and a type. -/
structure FieldEntry where
  name : Spanned
  type : Spanned

/-- A resource entry. -/
structure ResourceEntry where
  name : Spanned
  base : Spanned
  values : List Spanned

/-- A struct entry. -/
structure RecordEntry where
  name : Spanned
  union : Bool
  fields : List FieldEntry

/-- A syscall entry. -/
structure SyscallEntry where
  name : Spanned
  args : List FieldEntry
  ret : Option Spanned

/-- A description file as decoded. -/
structure FileEntry where
  resources : List ResourceEntry
  records : List RecordEntry
  syscalls : List SyscallEntry

/-- A spanned string. -/
def spannedString : Decoder Spanned := Decoder.spanned Decoder.string

/-- The fields of a field entry. -/
def fieldRules : List FieldRule :=
  [.of "name" .required spannedString, .of "type" .required spannedString]

/-- Decodes a field entry. -/
def fieldEntry : Decoder FieldEntry :=
  record "RawField" fieldRules true fun fs => do
    pure { name := ← fs.require fieldRules "name" spannedString
           type := ← fs.require fieldRules "type" spannedString }

/-- The fields of a resource entry. -/
def resourceRules : List FieldRule :=
  [.of "name" .required spannedString, .of "base" .required spannedString,
   .of "values" .defaulted (Decoder.list spannedString)]

/-- Decodes a resource entry. -/
def resourceEntry : Decoder ResourceEntry :=
  record "RawResource" resourceRules true fun fs => do
    pure { name := ← fs.require resourceRules "name" spannedString
           base := ← fs.require resourceRules "base" spannedString
           values := ← fs.withDefault resourceRules "values" (Decoder.list spannedString) [] }

/-- The fields of a struct entry. -/
def recordRules : List FieldRule :=
  [.of "name" .required spannedString, .of "union" .defaulted Decoder.bool,
   .of "fields" .required (Decoder.list fieldEntry)]

/-- Decodes a struct entry. -/
def recordEntry : Decoder RecordEntry :=
  record "RawStruct" recordRules true fun fs => do
    pure { name := ← fs.require recordRules "name" spannedString
           union := ← fs.withDefault recordRules "union" Decoder.bool false
           fields := ← fs.require recordRules "fields" (Decoder.list fieldEntry) }

/-- The fields of a syscall entry. -/
def syscallRules : List FieldRule :=
  [.of "name" .required spannedString, .of "args" .defaulted (Decoder.list fieldEntry),
   .of "ret" .optional spannedString]

/-- Decodes a syscall entry. -/
def syscallEntry : Decoder SyscallEntry :=
  record "RawSyscall" syscallRules true fun fs => do
    pure { name := ← fs.require syscallRules "name" spannedString
           args := ← fs.withDefault syscallRules "args" (Decoder.list fieldEntry) []
           ret := ← fs.read syscallRules "ret" spannedString }

/-- The fields of a description file. -/
def fileRules : List FieldRule :=
  [.of "resource" .defaulted (Decoder.list resourceEntry),
   .of "struct" .defaulted (Decoder.list recordEntry),
   .of "syscall" .defaulted (Decoder.list syscallEntry)]

/-- Decodes a description file. -/
def fileEntry : Decoder FileEntry :=
  record "RawFile" fileRules true fun fs => do
    pure { resources := ← fs.withDefault fileRules "resource" (Decoder.list resourceEntry) []
           records := ← fs.withDefault fileRules "struct" (Decoder.list recordEntry) []
           syscalls := ← fs.withDefault fileRules "syscall" (Decoder.list syscallEntry) [] }

/-- What reading files has gathered so far. -/
structure Gathered where
  description : Description := {}
  diagnostics : List Diagnostic := []

namespace Gathered

/-- Adds a diagnostic. -/
def report (g : Gathered) (p : Position) (message : String) : Gathered :=
  { g with diagnostics := g.diagnostics ++ [⟨p, message⟩] }

/-- Reads a type expression at a position, reporting it if it does not read. -/
def readType (g : Gathered) (p : Position) (text : String) : Gathered × Option TypeExpr :=
  match TypeExpr.parse text with
  | .ok t => (g, some t)
  | .error e => (g.report p e.message, none)

/-- Reads one field, leaving it out if its type does not read. -/
def readField (locate : Span → Position) (state : Gathered × List Field) (f : FieldEntry) :
    Gathered × List Field :=
  let (g, acc) := state
  let p := locate f.type.2
  match g.readType p f.type.1 with
  | (g, some t) => (g, acc ++ [⟨p, f.name.1, t⟩])
  | (g, none) => (g, acc)

/-- Reads the fields of an entry, leaving out those whose type does not read. -/
def readFields (locate : Span → Position) (g : Gathered) (fields : List FieldEntry) :
    Gathered × List Field :=
  fields.foldl (readField locate) (g, [])

/-- Adds a resource, unless its base type does not read. -/
def addResource (locate : Span → Position) (g : Gathered) (r : ResourceEntry) : Gathered :=
  match g.readType (locate r.base.2) r.base.1 with
  | (g, some base) =>
    let values := r.values.map fun v => (locate v.2, v.1)
    let item : Resource := ⟨locate r.name.2, r.name.1, base, values⟩
    { g with description := { g.description with resources := g.description.resources ++ [item] } }
  | (g, none) => g

/-- Adds a struct with the fields whose types read. -/
def addRecord (locate : Span → Position) (g : Gathered) (s : RecordEntry) : Gathered :=
  let (g, fields) := g.readFields locate s.fields
  let item : Record := ⟨locate s.name.2, s.name.1, s.union, fields⟩
  { g with description := { g.description with records := g.description.records ++ [item] } }

/-- Adds a syscall with the arguments and return type that read. -/
def addSyscall (locate : Span → Position) (g : Gathered) (c : SyscallEntry) : Gathered :=
  let (g, args) := g.readFields locate c.args
  let (g, ret) := match c.ret with
    | some r =>
      let p := locate r.2
      match g.readType p r.1 with
      | (g, some t) => (g, some (p, t))
      | (g, none) => (g, none)
    | none => (g, none)
  let item : Syscall := ⟨locate c.name.2, c.name.1, args, ret⟩
  { g with description := { g.description with syscalls := g.description.syscalls ++ [item] } }

/-- Reads one description file: its resources, then its structs, then its syscalls. -/
def addSource (g : Gathered) (file source : String) : Gathered :=
  match decodeText fileEntry Toml.parse source with
  | .error e =>
    let p := match e.span with
      | some s => Position.ofOffset file source s.start
      | none => Position.ofFile file
    g.report p (Text.trim e.message)
  | .ok entry =>
    let locate (s : Span) : Position := Position.ofOffset file source s.start
    let g := entry.resources.foldl (addResource locate) g
    let g := entry.records.foldl (addRecord locate) g
    entry.syscalls.foldl (addSyscall locate) g

/-- One definition's turn: reported if it redefines a builtin type or an earlier definition,
which it then replaces as the latest. -/
def redefinitionStep (isBuiltin : String → Bool) (what : String)
    (state : Gathered × List (String × Position)) (item : String × Position) :
    Gathered × List (String × Position) :=
  let (g, seen) := state
  let (name, p) := item
  if isBuiltin name then (g.report p ("'" ++ name ++ "' redefines a builtin type"), seen)
  else
    match seen.lookup name with
    | some prev =>
      (g.report p (what ++ " '" ++ name ++ "' redefined, previously at " ++ prev.render),
        (name, p) :: seen)
    | none => (g, (name, p) :: seen)

/-- Reports names defined twice: each definition is compared with the latest earlier one. -/
def reportRedefinitions (g : Gathered) (items : List (String × Position))
    (isBuiltin : String → Bool) (what : String) : Gathered :=
  (items.foldl (redefinitionStep isBuiltin what) (g, [])).1

/-- Reports types that redefine a builtin or each other, then syscalls defined twice. -/
def checkDuplicates (g : Gathered) : Gathered :=
  let d := g.description
  let types := d.resources.map (fun r => (r.name, r.position)) ++
    d.records.map (fun s => (s.name, s.position))
  let g := g.reportRedefinitions types (builtinTypes.contains ·) "type"
  g.reportRedefinitions (d.syscalls.map fun c => (c.name, c.position)) (fun _ => false) "syscall"

end Gathered

/-- Reads one description file into what was gathered, and records its name. -/
def Gathered.addFile (t : FileTree) (cwd : Location) (g : Gathered) (path : Path) : Gathered :=
  let file := path.render
  let g := match t.readFile cwd path with
    | .ok source => g.addSource file source
    | .error e => g.report (Position.ofFile file) ("failed to read: " ++ e.message)
  { g with description := { g.description with files := g.description.files ++ [file] } }

/-- Reads the description files a pattern names, in path order. -/
def readPattern (t : FileTree) (cwd : Location) (pattern : Path) :
    Except (List Diagnostic) Description :=
  match t.expand cwd pattern with
  | .error e => .error [⟨Position.ofFile pattern.render, e.message⟩]
  | .ok files =>
    let g := (files.foldl (Gathered.addFile t cwd) {}).checkDuplicates
    if g.diagnostics.isEmpty then .ok g.description else .error g.diagnostics

end SyscallTables.Description
