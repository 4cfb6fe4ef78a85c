import SyscallTables.Toml.Error
import SyscallTables.Decimal.Shortest
import SyscallTables.Text.Quote

namespace SyscallTables.Toml

/-! Decoding document nodes into typed values. A decoder either accepts a node or says what it
found and what it expected. A record is read from a table or, field by field in order, from an
array. In a table its entries are looked at in document order, so the first entry that is no
field of the record (when unknown fields are refused) or whose value does not decode is the one
reported; only then are missing fields looked for, in the record's order. An error that points
nowhere is pointed at the node it arose in, or failing that at the key the node stands under. -/

/-- What a decoder found instead of what it expected. -/
inductive Unexpected
  | string (s : String)
  | integer (i : Int)
  | float (f : Float)
  | boolean (b : Bool)
  | map
  | sequence

/-- Floats in messages: always positional, and a whole number keeps a `.0`. -/
def floatLayout : Decimal.Layout :=
  { positionalAbove := none
    positionalUpTo := none
    pointZero := true
    plusExponent := false
    zero := "0.0" }

/-- The text of a float in messages. -/
def floatText (f : Float) : String :=
  if f.isNaN then "NaN"
  else if f.isInf then (if f > 0 then "inf" else "-inf")
  else Decimal.renderFinite floatLayout f

/-- The text of what was found. -/
def Unexpected.render : Unexpected → String
  | .string s => "string " ++ Text.quote s
  | .integer i => "integer `" ++ toString i ++ "`"
  | .float f => "floating point `" ++ floatText f ++ "`"
  | .boolean b => "boolean `" ++ (if b then "true" else "false") ++ "`"
  | .map => "map"
  | .sequence => "sequence"

/-- What a node shows to a decoder: a date or time shows as a map. -/
def Node.unexpected : Node → Unexpected
  | .string s _ => .string s
  | .integer i _ => .integer i
  | .float f _ => .float f
  | .boolean b _ => .boolean b
  | .datetime _ => .map
  | .array .. => .sequence
  | .table .. => .map
  | .tables .. => .sequence

/-- The error of a node of the wrong kind. -/
def invalidType (n : Node) (expected : String) : Error :=
  { message := "invalid type: " ++ n.unexpected.render ++ ", expected " ++ expected }

/-- The text listing the fields a record has. -/
def expectedFields : List String → String
  | [] => "there are no fields"
  | [a] => "expected `" ++ a ++ "`"
  | [a, b] => "expected `" ++ a ++ "` or `" ++ b ++ "`"
  | names => "expected one of " ++ ", ".intercalate (names.map fun n => "`" ++ n ++ "`")

/-- The error of a key that is no field of a record. -/
def unknownField (name : String) (fields : List String) : Error :=
  { message := "unknown field `" ++ name ++ "`, " ++
      (if fields.isEmpty then "there are no fields" else expectedFields fields) }

/-- The error of a required field that is missing. -/
def missingField (name : String) : Error := { message := "missing field `" ++ name ++ "`" }

/-- Reading a value from a node. -/
abbrev Decoder (α : Type) := Node → Except Error α

namespace Decoder

/-- Runs a decoder; an error that points nowhere is pointed at the node. -/
def run (d : Decoder α) (n : Node) : Except Error α :=
  match d n with
  | .error e => .error (if e.span.isNone then { e with span := n.span? } else e)
  | ok => ok

/-- A string. -/
def string : Decoder String
  | .string s _ => .ok s
  | n => .error (invalidType n "a string")

/-- A boolean. -/
def bool : Decoder Bool
  | .boolean b _ => .ok b
  | n => .error (invalidType n "a boolean")

/-- An unsigned 64-bit integer; a document's integers are signed, so only negatives fail. -/
def unsigned : Decoder Nat
  | .integer i s =>
    if i < 0 then
      .error { message := "invalid value: " ++ (Unexpected.integer i).render ++ ", expected u64",
               span := some s }
    else .ok i.toNat
  | n => .error (invalidType n "u64")

/-- A value with the span of the node it was read from. A table without a span (made by a
dotted key or a longer header) is read as the span's own fields, so its first key is refused
as a name that is not one of them. -/
def spanned (d : Decoder α) : Decoder (α × Span) := fun n =>
  match n.span? with
  | some s => (d.run n).map (·, s)
  | none =>
    match n with
    | .table ((k, _) :: _) _ =>
      .error { message := "invalid type: " ++ (Unexpected.string k.name).render ++
                 ", expected a borrowed string", span := some k.span }
    | .table [] _ => .error { message := "spanned start key not found" }
    | _ => .error (invalidType n "a spanned value")

/-- A list, from an array or an array of tables. -/
def list (d : Decoder α) : Decoder (List α)
  | .array items _ | .tables items => items.mapM d.run
  | n => .error (invalidType n "a sequence")

end Decoder

/-- How a record treats a field it does not find. -/
inductive Presence
  /-- The field must be there. -/
  | required
  /-- The field may be left out of a table, but not off the end of an array. -/
  | optional
  /-- A missing field takes its default. -/
  | defaulted
  deriving DecidableEq, Repr

/-- A field of a record: its name, how its absence is treated, and whether a node is a value
of it. -/
structure FieldRule where
  name : String
  presence : Presence
  check : Node → Except Error Unit

/-- The rule of a field read by a decoder. -/
def FieldRule.of (name : String) (presence : Presence) (d : Decoder α) : FieldRule :=
  ⟨name, presence, fun n => (d.run n).map fun _ => ()⟩

/-- An error from the value under a key: pointed at the key when it points nowhere, with the
key put in front of its path. -/
def Error.underKey (k : Key) (e : Error) : Error :=
  { e with span := e.span.orElse fun _ => some k.span, keys := k.name :: e.keys }

/-- The fields of a record as found: by key in a table, or by position in an array. -/
inductive Fields
  | named (entries : List (Key × Node))
  | positional (items : List Node)

namespace Fields

/-- Reads a field if it is there. -/
def read (rules : List FieldRule) (fs : Fields) (name : String) (d : Decoder α) :
    Except Error (Option α) :=
  match fs with
  | .named entries =>
    match entries.find? (·.1.name == name) with
    | some (k, v) => ((d.run v).map some).mapError (Error.underKey k)
    | none => .ok none
  | .positional items =>
    match (rules.findIdx? (·.name == name)).bind (items[·]?) with
    | some v => (d.run v).map some
    | none => .ok none

/-- Reads a field that must be there. -/
def require (rules : List FieldRule) (fs : Fields) (name : String) (d : Decoder α) :
    Except Error α := do
  match ← fs.read rules name d with
  | some a => pure a
  | none => throw (missingField name)

/-- Reads a field, or takes its default. -/
def withDefault (rules : List FieldRule) (fs : Fields) (name : String) (d : Decoder α)
    (default : α) : Except Error α := do
  pure ((← fs.read rules name d).getD default)

end Fields

/-- Checks the entries of a table in document order against a record's fields. -/
def checkEntries (rules : List FieldRule) (refuseUnknown : Bool) (entries : List (Key × Node)) :
    Except Error Unit :=
  entries.forM fun (k, v) =>
    match rules.find? (·.name == k.name) with
    | some r => (r.check v).mapError (Error.underKey k)
    | none =>
      if refuseUnknown then
        .error { unknownField k.name (rules.map (·.name)) with span := some k.span }
      else .ok ()

/-- Checks that every required field is among the names found. -/
def checkPresent (rules : List FieldRule) (found : List String) : Except Error Unit :=
  rules.forM fun r =>
    if r.presence = .required && !found.contains r.name then .error (missingField r.name)
    else .ok ()

/-- Checks the items of an array, field by field in order. -/
def checkItems (typeName : String) (rules : List FieldRule) (items : List Node) :
    Except Error Unit :=
  (rules.zipIdx).forM fun (r, i) =>
    match items[i]? with
    | some v => r.check v
    | none =>
      if r.presence = .defaulted then .ok ()
      else .error { message := "invalid length " ++ toString i ++ ", expected struct " ++
                      typeName ++ " with " ++ toString rules.length ++ " elements" }

/-- The key under which a date or time shows its text to a record. -/
def datetimeKey : String := "$__toml_private_datetime"

/-- A record named `typeName` with the given fields, built by `build` once every field found
is known to decode. -/
def record (typeName : String) (rules : List FieldRule) (refuseUnknown : Bool)
    (build : Fields → Except Error α) : Decoder α
  | .table entries _ => do
    checkEntries rules refuseUnknown entries
    checkPresent rules (entries.map (·.1.name))
    build (.named entries)
  | .datetime _ =>
    if refuseUnknown then .error (unknownField datetimeKey (rules.map (·.name)))
    else do
      checkPresent rules []
      build (.named [])
  | .array items _ | .tables items => do
    checkItems typeName rules items
    build (.positional items)
  | n => .error (invalidType n ("struct " ++ typeName))

/-- Reads a document's root as a value: the error of a document that does not read, or of a
root that does not decode. -/
def decodeText (d : Decoder α) (parse : String → Except Error Node) (source : String) :
    Except Error α := do
  d.run (← parse source)

end SyscallTables.Toml
