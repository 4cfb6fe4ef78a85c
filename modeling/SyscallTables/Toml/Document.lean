namespace SyscallTables.Toml

/-! TOML documents as read: every value, key and table keeps the byte span it was read from,
tables keep their keys in the order they were first defined, and a table remembers how it
came to be (written inline, opened by a header, or made implicitly by a dotted key or a
longer header). Assembling a document from its lines follows the rules of the format: a key
is defined once per table, a header names a table once, a dotted key cannot reach into a
table opened by a header, and an array of tables grows by one table per header. -/

/-- A half-open byte range of the source. -/
structure Span where
  start : Nat
  stop : Nat
  deriving DecidableEq, Repr, Inhabited

/-- A key: its name, its text as written, and its span. -/
structure Key where
  name : String
  raw : String
  span : Span
  deriving DecidableEq, Repr, Inhabited

/-- How a table came to be. -/
structure TableInfo where
  span : Option Span
  inline : Bool
  implicit : Bool
  dotted : Bool
  deriving DecidableEq, Repr, Inhabited

/-- A node of a document: a value, a table, or an array of tables. -/
inductive Node
  | string (s : String) (span : Span)
  | integer (i : Int) (span : Span)
  | float (f : Float) (span : Span)
  | boolean (b : Bool) (span : Span)
  | datetime (span : Span)
  | array (items : List Node) (span : Span)
  | table (entries : List (Key × Node)) (info : TableInfo)
  | tables (items : List Node)
  deriving Inhabited

namespace Node

/-- The span of a table, if it has one. -/
def tableSpan? : Node → Option Span
  | .table _ m => m.span
  | _ => none

/-- The span a node was read from, if it has one. An array of tables reaches from the start of
its first table to the end of its last. -/
def span? : Node → Option Span
  | .string _ s | .integer _ s | .float _ s | .boolean _ s | .datetime s | .array _ s => some s
  | .table _ m => m.span
  | .tables items =>
    match items.head?.bind tableSpan?, items.getLast?.bind tableSpan? with
    | some first, some last => some ⟨first.start, last.stop⟩
    | _, _ => none

/-- An empty table. -/
def emptyTable (info : TableInfo) : Node := .table [] info

/-- The kind of a value, as named in error messages; `none` for tables opened by a header and
arrays of tables. -/
def valueTypeName? : Node → Option String
  | .string .. => some "string"
  | .integer .. => some "integer"
  | .float .. => some "float"
  | .boolean .. => some "boolean"
  | .datetime .. => some "datetime"
  | .array .. => some "array"
  | .table _ m => if m.inline then some "inline table" else none
  | .tables .. => none

end Node

/-- A reason an otherwise well-formed text is not a document. -/
inductive CustomError
  | duplicateKey (key : String) (table : Option (List String))
  | extendWrongType (path : List String) (actual : String)
  | outOfRange
  | recursionLimitExceeded
  deriving DecidableEq, Repr

/-- The text of a custom error. -/
def CustomError.message : CustomError → String
  | .duplicateKey key none => "duplicate key `" ++ key ++ "`"
  | .duplicateKey key (some []) => "duplicate key `" ++ key ++ "` in document root"
  | .duplicateKey key (some table) =>
    "duplicate key `" ++ key ++ "` in table `" ++ ".".intercalate table ++ "`"
  | .extendWrongType path actual =>
    "dotted key `" ++ ".".intercalate path ++ "` attempted to extend non-table type (" ++
      actual ++ ")"
  | .outOfRange => "value is out of range"
  | .recursionLimitExceeded => "recursion limit exceeded"

/-- The error for a header whose `i`-th key names something already defined. -/
def duplicateAt (path : List Key) (i : Nat) : CustomError :=
  .duplicateKey (path.getD i default).raw (some ((path.take i).map (·.name)))

namespace Entries

/-- The node under a name. -/
def get? (entries : List (Key × Node)) (name : String) : Option Node :=
  (entries.find? (·.1.name == name)).map (·.2)

/-- Replaces the node under a name, keeping its place. -/
def replace (entries : List (Key × Node)) (name : String) (n : Node) : List (Key × Node) :=
  entries.map fun (k, m) => if k.name == name then (k, n) else (k, m)

/-- Removes a name. -/
def erase (entries : List (Key × Node)) (name : String) : List (Key × Node) :=
  entries.filter (·.1.name != name)

end Entries

/-- The last table of an array of tables, and the array with it replaced. -/
def replaceLast (items : List Node) (n : Node) : List Node := items.dropLast ++ [n]

/-- Walks down a table along keys, making implicit tables where nothing stands (dotted when
`dotted`), descending into the last table of an array of tables, and applies `f` to the table
reached; `all` and `index` name the whole path for error messages. -/
def descend (dotted : Bool) (all : List Key) (f : Node → Except CustomError (Node × α)) :
    Nat → List Key → Node → Except CustomError (Node × α)
  | _, [], t => f t
  | index, k :: rest, t =>
    match t with
    | .table entries info =>
      let fresh : Node := .emptyTable ⟨none, false, true, dotted⟩
      let (entries, child) := match Entries.get? entries k.name with
        | some c => (entries, c)
        | none => (entries ++ [(k, fresh)], fresh)
      match child with
      | .tables items => do
        let (last, r) ← descend dotted all f (index + 1) rest (items.getLastD fresh)
        pure (.table (Entries.replace entries k.name (.tables (replaceLast items last))) info, r)
      | .table childEntries childMeta =>
        if childMeta.inline then
          .error (.extendWrongType ((all.take (index + 1)).map (·.raw)) "inline table")
        else if dotted && !childMeta.implicit then .error (.duplicateKey k.name none)
        else do
          let (c, r) ← descend dotted all f (index + 1) rest (.table childEntries childMeta)
          pure (.table (Entries.replace entries k.name c) info, r)
      | other =>
        .error (.extendWrongType ((all.take (index + 1)).map (·.raw))
          ((other.valueTypeName?).getD "table"))
    | other => .error (.extendWrongType ((all.take (index + 1)).map (·.raw))
        ((other.valueTypeName?).getD "table"))

/-- The state of assembling a document: the root, the table the lines go into, its header
path, and whether that header opened an array of tables. -/
structure Assembly where
  root : Node := .emptyTable ⟨none, false, false, false⟩
  current : Node := .emptyTable ⟨some ⟨0, 0⟩, false, false, false⟩
  currentPath : List Key := []
  currentIsArray : Bool := false
  deriving Inhabited

namespace Assembly

/-- The span of a table extended to the end of a value. -/
def extendSpan (t : Node) (v : Node) : Node :=
  match t, v.span? with
  | .table entries info, some vs =>
    match info.span with
    | some s => .table entries { info with span := some ⟨s.start, vs.stop⟩ }
    | none => t
  | _, _ => t

/-- Adds `key = value` under a dotted path to the current table. -/
def keyval (a : Assembly) (path : List Key) (key : Key) (value : Node) :
    Except CustomError Assembly := do
  let current := extendSpan a.current value
  let headerPath := a.currentPath.map (·.name)
  let (current, _) ← descend true path (fun t =>
    match t with
    | .table entries info =>
      if info.dotted == path.isEmpty then .error (.duplicateKey key.name none)
      else match Entries.get? entries key.name with
        | some _ => .error (.duplicateKey key.name (some headerPath))
        | none => .ok (.table (entries ++ [(key, value)]) info, ())
    | _ => .error (.duplicateKey key.name none)) 0 path current
  pure { a with current := current }

/-- Puts the current table into the root under its header path. -/
def finalize (a : Assembly) : Except CustomError Assembly := do
  let table := a.current
  let path := a.currentPath
  let reset : Assembly := { a with current := .emptyTable ⟨none, false, false, false⟩,
                                   currentPath := [] }
  match path.getLast? with
  | none => pure { reset with root := table }
  | some k =>
    let parentPath := path.dropLast
    let (root, _) ← descend false path (fun parent =>
      match parent with
      | .table entries info =>
        if a.currentIsArray then
          match Entries.get? entries k.name with
          | none =>
            .ok (.table (entries ++ [(k, .tables [table])]) info, ())
          | some (.tables items) =>
            .ok (.table (Entries.replace entries k.name (.tables (items ++ [table]))) info, ())
          | some _ => .error (duplicateAt path (path.length - 1))
        else
          match Entries.get? entries k.name with
          | none => .ok (.table (entries ++ [(k, table)]) info, ())
          | some (.table _ m) =>
            if m.implicit then .ok (.table (Entries.replace entries k.name table) info, ())
            else .error (duplicateAt path (path.length - 1))
          | some _ => .error (duplicateAt path (path.length - 1))
      | _ => .error (duplicateAt path (path.length - 1))) 0 parentPath a.root
    pure { reset with root := root }

/-- Opens a table under a header. -/
def startTable (a : Assembly) (path : List Key) (span : Span) : Except CustomError Assembly := do
  let a ← a.finalize
  match path.getLast? with
  | none => pure a
  | some k =>
    let (root, taken) ← descend false path (fun parent =>
      match parent with
      | .table entries info =>
        match Entries.get? entries k.name with
        | none => .ok (parent, none)
        | some (.table childEntries m) =>
          if m.implicit && !m.dotted then
            .ok (.table (Entries.erase entries k.name) info, some childEntries)
          else .error (duplicateAt path (path.length - 1))
        | some _ => .error (duplicateAt path (path.length - 1))
      | _ => .error (duplicateAt path (path.length - 1))) 0 path.dropLast a.root
    pure { a with
      root := root
      current := .table (taken.getD []) ⟨some span, false, false, false⟩
      currentPath := path
      currentIsArray := false }

/-- Opens the next table of an array of tables under a header. -/
def startArrayTable (a : Assembly) (path : List Key) (span : Span) :
    Except CustomError Assembly := do
  let a ← a.finalize
  match path.getLast? with
  | none => pure a
  | some k =>
    let (root, _) ← descend false path (fun parent =>
      match parent with
      | .table entries info =>
        match Entries.get? entries k.name with
        | none => .ok (.table (entries ++ [(k, .tables [])]) info, ())
        | some (.tables _) => .ok (parent, ())
        | some _ => .error (duplicateAt path (path.length - 1))
      | _ => .error (duplicateAt path (path.length - 1))) 0 path.dropLast a.root
    pure { a with
      root := root
      current := .emptyTable ⟨some span, false, false, false⟩
      currentPath := path
      currentIsArray := true }

end Assembly

/-- Assembles the pairs of an inline table; a dotted key makes implicit inline tables. -/
def inlineTable (pairs : List (List Key × Key × Node)) (span : Span) :
    Except CustomError Node :=
  let step (acc : Except CustomError Node) (p : List Key × Key × Node) :
      Except CustomError Node := do
    let t ← acc
    let (path, key, value) := p
    let (t, _) ← descendInline path key value t
    pure t
  pairs.foldl step (.ok (.table [] ⟨some span, true, false, false⟩))
where
  /-- Walks an inline table along a dotted path and adds the pair at its end. -/
  descendInline (path : List Key) (key : Key) (value : Node) (t : Node) :
      Except CustomError (Node × Unit) :=
    let dotted := !path.isEmpty
    descendI path dotted key value 0 path t
  /-- The walk itself. -/
  descendI (all : List Key) (dotted : Bool) (key : Key) (value : Node) :
      Nat → List Key → Node → Except CustomError (Node × Unit)
    | _, [], t =>
      match t with
      | .table entries info =>
        if info.dotted == all.isEmpty then .error (.duplicateKey key.name none)
        else match Entries.get? entries key.name with
          | some _ => .error (.duplicateKey key.name none)
          | none => .ok (.table (entries ++ [(key, value)]) info, ())
      | _ => .error (.duplicateKey key.name none)
    | index, k :: rest, t =>
      match t with
      | .table entries info =>
        let fresh : Node := .table [] ⟨none, true, dotted, dotted⟩
        let (entries, child) := match Entries.get? entries k.name with
          | some c => (entries, c)
          | none => (entries ++ [(k, fresh)], fresh)
        match child with
        | .table childEntries childMeta =>
          if !childMeta.inline then
            .error (.extendWrongType ((all.take (index + 1)).map (·.raw)) "table")
          else if dotted && !childMeta.implicit then .error (.duplicateKey k.name none)
          else do
            let (c, r) ← descendI all dotted key value (index + 1) rest
              (.table childEntries childMeta)
            pure (.table (Entries.replace entries k.name c) info, r)
        | other =>
          .error (.extendWrongType ((all.take (index + 1)).map (·.raw))
            ((other.valueTypeName?).getD "table"))
      | other => .error (.extendWrongType ((all.take (index + 1)).map (·.raw))
          ((other.valueTypeName?).getD "table"))

end SyscallTables.Toml
