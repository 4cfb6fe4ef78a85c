namespace SyscallTables

/-! Constant tables: names bound to 64-bit values for one architecture. The table keeps its
bindings in insertion order with each name at most once; `sorted` is the view by name that
every output uses, so nothing depends on the order of insertion. -/

/-- Names bound to 64-bit values, each name at most once. -/
structure ConstTable where
  entries : List (String × UInt64) := []
  deriving DecidableEq, Repr, Inhabited

namespace ConstTable

/-- The table with no bindings. -/
def empty : ConstTable := {}

/-- The value bound to a name. -/
def get? (t : ConstTable) (name : String) : Option UInt64 := t.entries.lookup name

/-- Whether a name is bound. -/
def contains (t : ConstTable) (name : String) : Bool := (t.get? name).isSome

/-- Binds a name that is not yet bound; a bound name keeps its value. -/
def insert (t : ConstTable) (name : String) (value : UInt64) : ConstTable :=
  if t.contains name then t else ⟨t.entries ++ [(name, value)]⟩

/-- A table from pairs, the first binding of each name winning. -/
def ofList (pairs : List (String × UInt64)) : ConstTable :=
  pairs.foldl (fun t p => t.insert p.1 p.2) empty

/-- The bindings ordered by name, bytewise. -/
def sorted (t : ConstTable) : List (String × UInt64) :=
  t.entries.mergeSort fun a b => decide (a.1 ≤ b.1)

/-- The number of bindings. -/
def size (t : ConstTable) : Nat := t.entries.length

@[simp] theorem get?_empty (name : String) : empty.get? name = none := rfl

end ConstTable

end SyscallTables
