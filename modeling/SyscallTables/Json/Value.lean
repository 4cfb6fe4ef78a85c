namespace SyscallTables.Json

/-! JSON values as read from data-definition texts. A number is kept as what it was read as:
an unsigned 64-bit integer, a negative integer within 64-bit range, or a double. Objects hold
their members sorted by key with each key once, the last of duplicate members winning. -/

/-- A JSON number as read: integers within 64 bits stay exact. -/
inductive Number
  | unsigned (value : Nat)
  | negative (value : Int)
  | double (value : Float)
  deriving Inhabited

/-- A JSON value; object members are sorted by key. -/
inductive Value
  | null
  | bool (b : Bool)
  | number (n : Number)
  | string (s : String)
  | array (items : List Value)
  | object (members : List (String × Value))
  deriving Inhabited

/-- Inserts a member into a key-sorted member list, replacing a member of the same key. -/
def insertMember (key : String) (v : Value) : List (String × Value) → List (String × Value)
  | [] => [(key, v)]
  | (k, w) :: rest =>
    if key < k then (key, v) :: (k, w) :: rest
    else if key = k then (key, v) :: rest
    else (k, w) :: insertMember key v rest

end SyscallTables.Json
