import SyscallTables.Proofs.Json.Scalars

namespace SyscallTables.Json

/-! Reading back written values. The compact text of a value whose numbers are unsigned and
below `2 ^ 64` reads back as the value with the members of each object sorted by key
(`Value.normalize`), provided it nests less deep than the levels reading allows; otherwise
reading stops at the recursion limit (`reads_value`). An object written one member per line,
as a data definition is, reads back the same way (`parse_lineObject`). Fuel never runs out:
each step of reading consumes a byte. -/

mutual
/-- How deep arrays and objects nest in a value. -/
def Value.depth : Value → Nat
  | .array items => itemsDepth items + 1
  | .object members => membersDepth members + 1
  | _ => 0

/-- The deepest nesting among items. -/
def itemsDepth : List Value → Nat
  | [] => 0
  | v :: rest => max v.depth (itemsDepth rest)

/-- The deepest nesting among the values of members. -/
def membersDepth : List (String × Value) → Nat
  | [] => 0
  | (_, v) :: rest => max v.depth (membersDepth rest)
end

mutual
/-- A value as reading gives it back: the members of every object sorted by key, the last of
a repeated key kept. -/
def Value.normalize : Value → Value
  | .array items => .array (normalizeItems items)
  | .object members => .object (normalizeMembers [] members)
  | v => v

def normalizeItems : List Value → List Value
  | [] => []
  | v :: rest => v.normalize :: normalizeItems rest

def normalizeMembers (acc : List (String × Value)) :
    List (String × Value) → List (String × Value)
  | [] => acc
  | (k, v) :: rest => normalizeMembers (insertMember k v.normalize acc) rest
end

mutual
/-- Every number of a value is an integer that reads back exactly: unsigned and below
`2 ^ 64`. -/
def Value.Exact : Value → Prop
  | .number (.unsigned n) => n < Nat.pow 2 64
  | .number _ => False
  | .array items => ItemsExact items
  | .object members => MembersExact members
  | _ => True

def ItemsExact : List Value → Prop
  | [] => True
  | v :: rest => v.Exact ∧ ItemsExact rest

def MembersExact : List (String × Value) → Prop
  | [] => True
  | (_, v) :: rest => v.Exact ∧ MembersExact rest
end


/-! ## Reading results -/

/-- What reading gives on the text of something nested `n` deep when `depth` levels are
allowed: the thing itself with the cursor at `rest`, or the recursion limit once the nesting
reaches the levels allowed. -/
def Reads (depth n : Nat) (x : α) (rest : List UInt8) (r : Except Fault (α × Cursor)) : Prop :=
  if n < depth then ∃ j, r = .ok (x, ⟨rest, j⟩) else ∃ j, r = .error (.recursionLimitExceeded, j)

section Reads

variable {depth n m : Nat} {x : α} {y : β} {rest rest' : List UInt8}

theorem Reads.ok (fits : n < depth) (j : Nat) : Reads depth n x rest (.ok (x, ⟨rest, j⟩)) := by
  simp only [Reads, if_pos fits]
  exact ⟨j, rfl⟩

theorem Reads.result {r : Except Fault (α × Cursor)} (reads : Reads depth n x rest r) (fits : n < depth) :
    ∃ j, r = .ok (x, ⟨rest, j⟩) := by
  simpa [Reads, fits] using reads

theorem Reads.refused (deep : depth ≤ n) (j : Nat) :
    Reads depth n x rest (.error (.recursionLimitExceeded, j) : Except Fault (α × Cursor)) := by
  simp only [Reads, if_neg (Nat.not_lt.mpr deep)]
  exact ⟨j, rfl⟩

/-- Reading one thing and then, from where it stopped, another: the deeper of the two decides
whether the limit is reached. -/
theorem Reads.bind {r : Except Fault (α × Cursor)} {f : α × Cursor → Except Fault (β × Cursor)}
    (first : Reads depth n x rest r)
    (next : n < depth → ∀ j, Reads depth m y rest' (f (x, ⟨rest, j⟩))) :
    Reads depth (max n m) y rest' (r >>= f) := by
  by_cases fits : n < depth
  · obtain ⟨j, rfl⟩ := first.result fits
    show Reads depth (max n m) y rest' (f (x, ⟨rest, j⟩))
    have later := next fits j
    unfold Reads at later ⊢
    by_cases both : m < depth
    · rw [if_pos (by omega)]
      rwa [if_pos both] at later
    · rw [if_neg (by omega)]
      rwa [if_neg both] at later
  · obtain ⟨j, rfl⟩ : ∃ j, r = .error (.recursionLimitExceeded, j) := by
      simpa [Reads, fits] using first
    exact Reads.refused (by omega) j

/-- Reading the inside of an array or object one level down. -/
theorem Reads.nest {r : Except Fault (α × Cursor)} (inner : Reads (depth - 1) n x rest r)
    (room : 1 < depth) (g : α → β) :
    Reads depth (n + 1) (g x) rest (r >>= fun p => pure (g p.1, p.2)) := by
  by_cases fits : n < depth - 1
  · obtain ⟨j, rfl⟩ := inner.result fits
    exact Reads.ok (by omega) j
  · obtain ⟨j, rfl⟩ : ∃ j, r = .error (.recursionLimitExceeded, j) := by
      simpa [Reads, fits] using inner
    exact Reads.refused (by omega) j

end Reads

/-! ## Written texts -/

/-- A byte a written value can start with: neither blank nor a comma nor a closing bracket or
brace. -/
def Opens (b : UInt8) : Prop := 34 ≤ b.toNat ∧ b ≠ 44 ∧ b ≠ 93 ∧ b ≠ 125

instance : DecidablePred Opens := fun b =>
  inferInstanceAs (Decidable (34 ≤ b.toNat ∧ b ≠ 44 ∧ b ≠ 93 ∧ b ≠ 125))

theorem Opens.solid {b : UInt8} (opens : Opens b) : ¬ Blank b := by
  rintro (h | h | h | h) <;> (subst h; simp [Opens] at opens)

theorem opens_of_isDigit {b : UInt8} (digit : isDigit b = true) : Opens b := by
  simp only [isDigit, Bool.and_eq_true, decide_eq_true_eq, UInt8.le_iff_toNat_le] at digit
  simp only [UInt8.reduceToNat] at digit
  refine ⟨by omega, ?_, ?_, ?_⟩ <;> (intro h; subst h; simp at digit)

theorem compact_opens (v : Value) (exact : v.Exact) :
    ∃ b bs, textBytes v.compact = b :: bs ∧ Opens b := by
  cases v with
  | null => exact ⟨110, _, by rw [Value.compact, textBytes_eq]; rfl, by decide⟩
  | bool b =>
    cases b with
    | true => exact ⟨116, _, by rw [Value.compact, textBytes_eq]; rfl, by decide⟩
    | false => exact ⟨102, _, by rw [Value.compact, textBytes_eq]; rfl, by decide⟩
  | number n =>
    cases n with
    | unsigned n =>
      obtain ⟨b, bs, written, digit⟩ := textBytes_toString_head n
      exact ⟨b, bs, by rw [Value.compact, Number.render, written], opens_of_isDigit digit⟩
    | negative n => simp [Value.Exact] at exact
    | double f => simp [Value.Exact] at exact
  | string s => exact ⟨34, _, by rw [Value.compact, textBytes_quote]; rfl, by decide⟩
  | array items =>
    exact ⟨91, _, by rw [Value.compact, textBytes_append, textBytes_append, textBytes_eq "["]; rfl,
      by decide⟩
  | object members =>
    exact ⟨123, _, by
      rw [Value.compact, textBytes_append, textBytes_append, textBytes_eq "\x7b"]; rfl, by decide⟩

/-! ## One step of reading items and members -/

/-- Blanks only. -/
def Blanks (bs : List UInt8) : Prop := ∀ b ∈ bs, Blank b

instance : DecidablePred Blank := fun b =>
  inferInstanceAs (Decidable (b = 32 ∨ b = 9 ∨ b = 10 ∨ b = 13))

/-- What stands before an item or a member: blanks before the first, a comma and blanks before
any other. -/
def Leads : Bool → List UInt8 → Prop
  | true, pre => Blanks pre
  | false, pre => ∃ q, pre = 44 :: q ∧ Blanks q

theorem readItems_item {first : Bool} {pre : List UInt8} (lead : Leads first pre) {v : Value}
    (exact : v.Exact) (more : List UInt8) (fuel depth : Nat) (acc : List Value) (i : Nat) :
    ∃ j, readItems (fuel + 1) depth first acc ⟨pre ++ textBytes v.compact ++ more, i⟩ =
      readValue fuel depth ⟨textBytes v.compact ++ more, j⟩ >>= fun p =>
        readItems fuel depth false (p.1 :: acc) p.2 := by
  obtain ⟨b, bs, written, opens⟩ := compact_opens v exact
  have notComma : b ≠ 44 := opens.2.1
  have notBracket : b ≠ 93 := opens.2.2.1
  rw [written]
  cases first with
  | true =>
    refine ⟨i + pre.length, ?_⟩
    rw [readItems, List.append_assoc, List.cons_append, skipBlank_blanks lead opens.solid]
    -- the first byte is neither a closing bracket nor a comma, so the item is read at once
    simp only [Cursor.peek, List.head?_cons, if_true]
  | false =>
    obtain ⟨q, rfl, blanks⟩ := lead
    refine ⟨i + 1 + q.length, ?_⟩
    rw [readItems, List.append_assoc, List.cons_append, List.cons_append,
      skipBlank_solid (by decide)]
    simp only [Cursor.peek, List.head?_cons, Cursor.next, List.tail_cons, Bool.false_eq_true,
      if_false, skipBlank_blanks blanks opens.solid]

theorem readItems_close (first : Bool) {close : List UInt8} (blanks : Blanks close)
    (rest : List UInt8) (fuel depth : Nat) (acc : List Value) (i : Nat) :
    ∃ j, readItems (fuel + 1) depth first acc ⟨close ++ 93 :: rest, i⟩ =
      .ok (acc.reverse, ⟨rest, j⟩) := by
  refine ⟨i + close.length + 1, ?_⟩
  rw [readItems, skipBlank_blanks blanks (by decide)]
  rfl

theorem readMembers_close (first : Bool) {close : List UInt8} (blanks : Blanks close)
    (rest : List UInt8) (fuel depth : Nat) (acc : List (String × Value)) (i : Nat) :
    ∃ j, readMembers (fuel + 1) depth first acc ⟨close ++ 125 :: rest, i⟩ = .ok (acc, ⟨rest, j⟩) := by
  refine ⟨i + close.length + 1, ?_⟩
  rw [readMembers, skipBlank_blanks blanks (by decide)]
  rfl

@[simp] theorem ok_bind (a : α) (f : α → Except ε β) : (Except.ok a >>= f) = f a := rfl

theorem quote_append (k : String) (more : List UInt8) :
    textBytes (quote k) ++ more = 34 :: (escapedBytes k ++ 34 :: more) := by
  rw [textBytes_quote]
  simp

theorem readMembers_member {first : Bool} {pre : List UInt8} (lead : Leads first pre)
    (k : String) (more : List UInt8) (fuel depth : Nat) (acc : List (String × Value)) (i : Nat) :
    ∃ j, readMembers (fuel + 1) depth first acc ⟨pre ++ textBytes (quote k) ++ 58 :: more, i⟩ =
      readValue fuel depth ⟨more, j⟩ >>= fun p =>
        readMembers fuel depth false (insertMember k p.1 acc) p.2 := by
  have colon : ¬ Blank 58 := by decide
  have quoteSolid : ¬ Blank 34 := by decide
  rw [List.append_assoc, quote_append]
  cases first with
  | true =>
    refine ⟨i + pre.length + 1 + (escapedBytes k).length + 1 + 1, ?_⟩
    rw [readMembers, skipBlank_blanks lead (by decide)]
    simp [Cursor.peek, Cursor.next, readString_escaped, skipBlank_solid colon]
  | false =>
    obtain ⟨q, rfl, blanks⟩ := lead
    refine ⟨i + 1 + q.length + 1 + (escapedBytes k).length + 1 + 1, ?_⟩
    rw [readMembers, List.cons_append, skipBlank_solid (by decide)]
    simp [Cursor.peek, Cursor.next, readString_escaped, skipBlank_solid colon,
      skipBlank_blanks blanks quoteSolid]

/-! ## Walking items and members -/

/-- Reading the compact text of a value after blanks, with `fuel` steps and `depth` levels
allowed. -/
def ReadsValue (fuel depth : Nat) : Prop :=
  ∀ (v : Value) (pre rest : List UInt8) (i : Nat), Blanks pre → v.Exact → Stops rest →
    (textBytes v.compact).length ≤ fuel →
    Reads depth v.depth v.normalize rest
      (readValue fuel depth ⟨pre ++ textBytes v.compact ++ rest, i⟩)

theorem stops_of_head {b : UInt8} (ends : b = 44 ∨ b = 93 ∨ b = 125 ∨ Blank b)
    (rest : List UInt8) : Stops (b :: rest) := by
  rcases ends with rfl | rfl | rfl | rfl | rfl | rfl | rfl <;>
    exact ⟨rfl, by decide, by decide, by decide⟩

theorem blanks_nil : Blanks [] := fun _ member => absurd member List.not_mem_nil

theorem blanks_single {b : UInt8} (blank : Blank b) : Blanks [b] := by
  intro c member
  rw [List.mem_singleton] at member
  exact member ▸ blank

@[simp] theorem textBytes_empty : textBytes "" = [] := by rw [textBytes_eq]; rfl
@[simp] theorem textBytes_comma : textBytes "," = [44] := by rw [textBytes_eq]; rfl

/-- Items after the first, each after a comma. -/
def itemsTail (vs : List Value) : String := String.join (vs.map fun v => "," ++ v.compact)

theorem itemsTail_cons (v : Value) (vs : List Value) :
    itemsTail (v :: vs) = "," ++ v.compact ++ itemsTail vs := by
  simp [itemsTail, String.join_cons, String.append_assoc]

theorem compactItems_cons (v : Value) (vs : List Value) :
    compactItems (v :: vs) = v.compact ++ itemsTail vs := by
  induction vs generalizing v with
  | nil => simp [compactItems, itemsTail]
  | cons w ws ih => simp [compactItems, ih, itemsTail_cons, String.append_assoc]

theorem length_compact_pos (v : Value) (exact : v.Exact) : 0 < (textBytes v.compact).length := by
  obtain ⟨b, bs, written, -⟩ := compact_opens v exact
  simp [written]

/-- A member as written: its key in quotes, a colon, the blanks `colon` and its value. -/
def memberBytes (colon : List UInt8) (m : String × Value) : List UInt8 :=
  textBytes (quote m.1) ++ 58 :: (colon ++ textBytes m.2.compact)

/-- Members after the first, each after a comma and the blanks `comma`. -/
def membersTailBytes (colon comma : List UInt8) (ms : List (String × Value)) : List UInt8 :=
  ms.flatMap fun m => 44 :: (comma ++ memberBytes colon m)

/-- One item: its value is read and the items go on from where it stops. -/
theorem readItems_step {first : Bool} {pre : List UInt8} (lead : Leads first pre)
    {f depth n : Nat} (reads : ReadsValue f depth) {v : Value} (exact : v.Exact)
    (fits : (textBytes v.compact).length ≤ f) {after : List UInt8} (stops : Stops after)
    (acc : List Value) (i : Nat) {x : List Value} {rest : List UInt8}
    (later : v.depth < depth → ∀ j,
      Reads depth n x rest (readItems f depth false (v.normalize :: acc) ⟨after, j⟩)) :
    Reads depth (max v.depth n) x rest
      (readItems (f + 1) depth first acc ⟨pre ++ textBytes v.compact ++ after, i⟩) := by
  obtain ⟨j, step⟩ := readItems_item lead exact after f depth acc i
  rw [step]
  have value := reads v [] after j blanks_nil exact stops fits
  rw [List.nil_append] at value
  exact Reads.bind value later

/-- One member: its key and value are read and the members go on from where the value stops. -/
theorem readMembers_step {first : Bool} {pre colon : List UInt8} (lead : Leads first pre)
    (colonBlank : Blanks colon) {f depth n : Nat} (reads : ReadsValue f depth) (k : String)
    {v : Value} (exact : v.Exact) (fits : (textBytes v.compact).length ≤ f)
    {after : List UInt8} (stops : Stops after) (acc : List (String × Value)) (i : Nat)
    {x : List (String × Value)} {rest : List UInt8}
    (later : v.depth < depth → ∀ j, Reads depth n x rest
      (readMembers f depth false (insertMember k v.normalize acc) ⟨after, j⟩)) :
    Reads depth (max v.depth n) x rest
      (readMembers (f + 1) depth first acc ⟨pre ++ memberBytes colon (k, v) ++ after, i⟩) := by
  have text : pre ++ memberBytes colon (k, v) ++ after =
      pre ++ textBytes (quote k) ++ 58 :: (colon ++ textBytes v.compact ++ after) := by
    simp [memberBytes]
  obtain ⟨j, step⟩ := readMembers_member lead k (colon ++ textBytes v.compact ++ after) f depth
    acc i
  rw [text, step]
  exact Reads.bind (reads v colon after j colonBlank exact stops fits) later

theorem stops_itemsTail (vs : List Value) (rest : List UInt8) :
    Stops (textBytes (itemsTail vs) ++ 93 :: rest) := by
  cases vs with
  | nil =>
    simp only [itemsTail, List.map_nil, String.join_nil, textBytes_empty, List.nil_append]
    exact stops_of_head (Or.inr (Or.inl rfl)) rest
  | cons w ws =>
    rw [itemsTail_cons, textBytes_append, textBytes_append, textBytes_comma]
    exact stops_of_head (Or.inl rfl) _

theorem stops_membersTail {close : List UInt8} (closeBlank : Blanks close) (colon comma : List UInt8)
    (ms : List (String × Value)) (rest : List UInt8) :
    Stops (membersTailBytes colon comma ms ++ close ++ 125 :: rest) := by
  cases ms with
  | cons m ms => exact stops_of_head (Or.inl rfl) _
  | nil =>
    cases close with
    | nil => exact stops_of_head (Or.inr (Or.inr (Or.inl rfl))) rest
    | cons b bs => exact stops_of_head (Or.inr (Or.inr (Or.inr (closeBlank b (by simp))))) _

section Walk

variable {fuel depth : Nat} (values : ∀ f < fuel, ReadsValue f depth) (pos : 0 < depth)
include values pos

theorem readItems_tail (vs : List Value) (exact : ItemsExact vs) (acc : List Value)
    (rest : List UInt8) (i : Nat) (short : (textBytes (itemsTail vs)).length < fuel) :
    Reads depth (itemsDepth vs) (acc.reverse ++ normalizeItems vs) rest
      (readItems fuel depth false acc ⟨textBytes (itemsTail vs) ++ 93 :: rest, i⟩) := by
  induction vs generalizing fuel acc i with
  | nil =>
    obtain ⟨f, rfl⟩ : ∃ f, fuel = f + 1 := ⟨fuel - 1, by omega⟩
    obtain ⟨j, closed⟩ := readItems_close false blanks_nil rest f depth acc i
    simp only [List.nil_append] at closed
    simp only [itemsTail, List.map_nil, String.join_nil, textBytes_empty, List.nil_append]
    rw [closed, normalizeItems, List.append_nil]
    exact Reads.ok pos j
  | cons v vs ih =>
    obtain ⟨exactHead, exactRest⟩ := exact
    have positive := length_compact_pos v exactHead
    rw [itemsTail_cons, textBytes_append, textBytes_append, textBytes_comma] at short ⊢
    simp only [List.length_append, List.length_singleton] at short
    obtain ⟨f, rfl⟩ : ∃ f, fuel = f + 1 := ⟨fuel - 1, by omega⟩
    rw [List.append_assoc]
    -- after the item, the rest of the items with one step less
    refine readItems_step (show Leads false [44] from ⟨[], rfl, blanks_nil⟩)
      (values f (by omega)) exactHead (by omega) (stops_itemsTail vs rest) acc i ?_
    intro _ j
    have walked := @ih f (fun f' below => values f' (by omega)) exactRest (v.normalize :: acc) j
      (by omega)
    simpa [normalizeItems] using walked

theorem readItems_first (vs : List Value) (exact : ItemsExact vs) (rest : List UInt8) (i : Nat)
    (short : (textBytes (compactItems vs)).length < fuel) :
    Reads depth (itemsDepth vs) (normalizeItems vs) rest
      (readItems fuel depth true [] ⟨textBytes (compactItems vs) ++ 93 :: rest, i⟩) := by
  obtain ⟨f, rfl⟩ : ∃ f, fuel = f + 1 := ⟨fuel - 1, by omega⟩
  cases vs with
  | nil =>
    obtain ⟨j, closed⟩ := readItems_close true blanks_nil rest f depth [] i
    simp only [List.nil_append] at closed
    simp only [compactItems, textBytes_empty, List.nil_append]
    rw [closed]
    exact Reads.ok pos j
  | cons v vs =>
    obtain ⟨exactHead, exactRest⟩ := exact
    have positive := length_compact_pos v exactHead
    rw [compactItems_cons, textBytes_append] at short ⊢
    rw [List.length_append] at short
    rw [List.append_assoc, ← List.nil_append (textBytes v.compact)]
    refine readItems_step (show Leads true [] from blanks_nil) (values f (by omega)) exactHead
      (by omega) (stops_itemsTail vs rest) [] i ?_
    intro _ j
    have walked := @readItems_tail f depth (fun f' below => values f' (by omega)) pos vs
      exactRest [v.normalize] rest j (by omega)
    simpa [normalizeItems] using walked

variable {colon comma close : List UInt8} (colonBlank : Blanks colon) (commaBlank : Blanks comma)
  (closeBlank : Blanks close)
include colonBlank commaBlank closeBlank

theorem readMembers_tail (ms : List (String × Value)) (exact : MembersExact ms)
    (acc : List (String × Value)) (rest : List UInt8) (i : Nat)
    (short : (membersTailBytes colon comma ms).length < fuel) :
    Reads depth (membersDepth ms) (normalizeMembers acc ms) rest
      (readMembers fuel depth false acc
        ⟨membersTailBytes colon comma ms ++ close ++ 125 :: rest, i⟩) := by
  induction ms generalizing fuel acc i with
  | nil =>
    obtain ⟨f, rfl⟩ : ∃ f, fuel = f + 1 := ⟨fuel - 1, by omega⟩
    obtain ⟨j, closed⟩ := readMembers_close false closeBlank rest f depth acc i
    simp only [membersTailBytes, List.flatMap_nil, List.nil_append]
    rw [closed, normalizeMembers]
    exact Reads.ok pos j
  | cons m ms ih =>
    obtain ⟨k, v⟩ := m
    obtain ⟨exactHead, exactRest⟩ := exact
    have positive := length_compact_pos v exactHead
    have text : membersTailBytes colon comma ((k, v) :: ms) ++ close ++ 125 :: rest =
        (44 :: comma) ++ memberBytes colon (k, v) ++
          (membersTailBytes colon comma ms ++ close ++ 125 :: rest) := by
      simp [membersTailBytes]
    have sizes : (membersTailBytes colon comma ((k, v) :: ms)).length =
        1 + comma.length + (textBytes (quote k)).length + 1 + colon.length +
          (textBytes v.compact).length + (membersTailBytes colon comma ms).length := by
      simp only [membersTailBytes, memberBytes, List.flatMap_cons, List.length_append,
        List.length_cons]
      omega
    obtain ⟨f, rfl⟩ : ∃ f, fuel = f + 1 := ⟨fuel - 1, by omega⟩
    rw [text]
    refine readMembers_step (show Leads false (44 :: comma) from ⟨comma, rfl, commaBlank⟩)
      colonBlank (values f (by omega)) k exactHead (by omega)
      (stops_membersTail closeBlank colon comma ms rest) acc i ?_
    intro _ j
    exact @ih f (fun f' below => values f' (by omega)) exactRest _ j (by omega)

theorem readMembers_first {pre : List UInt8} (preBlank : Blanks pre) (m : String × Value)
    (ms : List (String × Value)) (exact : MembersExact (m :: ms)) (acc : List (String × Value))
    (rest : List UInt8) (i : Nat)
    (short : (memberBytes colon m ++ membersTailBytes colon comma ms).length < fuel) :
    Reads depth (membersDepth (m :: ms)) (normalizeMembers acc (m :: ms)) rest
      (readMembers fuel depth true acc
        ⟨pre ++ memberBytes colon m ++ membersTailBytes colon comma ms ++ close ++ 125 :: rest,
          i⟩) := by
  obtain ⟨k, v⟩ := m
  obtain ⟨exactHead, exactRest⟩ := exact
  obtain ⟨f, rfl⟩ : ∃ f, fuel = f + 1 := ⟨fuel - 1, by omega⟩
  have positive := length_compact_pos v exactHead
  have sizes : (memberBytes colon (k, v)).length =
      (textBytes (quote k)).length + 1 + colon.length + (textBytes v.compact).length := by
    simp only [memberBytes, List.length_append, List.length_cons]
    omega
  rw [List.length_append] at short
  have text : pre ++ memberBytes colon (k, v) ++ membersTailBytes colon comma ms ++ close ++
      125 :: rest = pre ++ memberBytes colon (k, v) ++
        (membersTailBytes colon comma ms ++ close ++ 125 :: rest) := by
    simp
  rw [text]
  refine readMembers_step (show Leads true pre from preBlank) colonBlank (values f (by omega)) k
    exactHead (by omega) (stops_membersTail closeBlank colon comma ms rest) acc i ?_
  intro _ j
  have walked := @readMembers_tail f depth (fun f' below => values f' (by omega)) pos colon comma
    close colonBlank commaBlank closeBlank ms exactRest (insertMember k v.normalize acc) rest j
    (by omega)
  simpa [normalizeMembers] using walked

end Walk

/-! ## Values -/

theorem textBytes_compact_array (items : List Value) :
    textBytes (Value.array items).compact = 91 :: (textBytes (compactItems items) ++ [93]) := by
  rw [Value.compact, textBytes_append, textBytes_append, textBytes_eq "[", textBytes_eq "]"]
  rfl

theorem textBytes_compact_object (members : List (String × Value)) :
    textBytes (Value.object members).compact =
      123 :: (textBytes (compactMembers members) ++ [125]) := by
  rw [Value.compact, textBytes_append, textBytes_append, textBytes_eq "\x7b", textBytes_eq "\x7d"]
  rfl

theorem textBytes_compactMembers (m : String × Value) (ms : List (String × Value)) :
    textBytes (compactMembers (m :: ms)) = memberBytes [] m ++ membersTailBytes [] [] ms := by
  induction ms generalizing m with
  | nil =>
    obtain ⟨k, v⟩ := m
    simp [compactMembers, memberBytes, membersTailBytes, textBytes_eq ":"]
    rfl
  | cons m' ms ih =>
    obtain ⟨k, v⟩ := m
    rw [compactMembers.eq_3 _ _ _ (by simp), textBytes_append, textBytes_append, textBytes_append,
      textBytes_append, ih, textBytes_comma, textBytes_eq ":"]
    simp [memberBytes, membersTailBytes]
    rfl

theorem digit_ne {b : UInt8} (digit : isDigit b = true) :
    b ≠ 110 ∧ b ≠ 116 ∧ b ≠ 102 ∧ b ≠ 45 ∧ b ≠ 34 ∧ b ≠ 91 ∧ b ≠ 123 := by
  simp only [isDigit, Bool.and_eq_true, decide_eq_true_eq, UInt8.le_iff_toNat_le,
    UInt8.reduceToNat] at digit
  refine ⟨?_, ?_, ?_, ?_, ?_, ?_, ?_⟩ <;> (intro same; subst same; simp at digit)

section Values

variable {f depth : Nat} {pre rest : List UInt8}

theorem reads_null (i : Nat) (pos : 0 < depth) (blanks : Blanks pre) :
    Reads depth Value.null.depth Value.null.normalize rest
      (readValue (f + 1) depth ⟨pre ++ textBytes Value.null.compact ++ rest, i⟩) := by
  have word : textBytes Value.null.compact = [110, 117, 108, 108] := by
    rw [Value.compact, textBytes_eq]
    rfl
  rw [word, List.append_assoc, List.cons_append, readValue, skipBlank_blanks blanks (by decide)]
  exact Reads.ok pos _

theorem reads_bool (i : Nat) (pos : 0 < depth) (blanks : Blanks pre) (b : Bool) :
    Reads depth (Value.bool b).depth (Value.bool b).normalize rest
      (readValue (f + 1) depth ⟨pre ++ textBytes (Value.bool b).compact ++ rest, i⟩) := by
  have word : textBytes (Value.bool b).compact =
      if b then [116, 114, 117, 101] else [102, 97, 108, 115, 101] := by
    cases b <;> (rw [Value.compact, textBytes_eq]; rfl)
  rw [word]
  cases b with
  | true =>
    rw [if_pos rfl, List.append_assoc, List.cons_append, readValue,
      skipBlank_blanks blanks (by decide)]
    exact Reads.ok pos _
  | false =>
    rw [if_neg Bool.false_ne_true, List.append_assoc, List.cons_append, readValue,
      skipBlank_blanks blanks (by decide)]
    exact Reads.ok pos _

theorem reads_unsigned (i : Nat) (pos : 0 < depth) (blanks : Blanks pre) (n : Nat)
    (exact : (Value.number (.unsigned n)).Exact) (stops : Stops rest) :
    Reads depth (Value.number (.unsigned n)).depth (Value.number (.unsigned n)).normalize rest
      (readValue (f + 1) depth
        ⟨pre ++ textBytes (Value.number (.unsigned n)).compact ++ rest, i⟩) := by
  obtain ⟨b, bs, written, digit⟩ := textBytes_toString_head n
  -- a digit opens none of the other kinds of value
  obtain ⟨n₁, n₂, n₃, n₄, n₅, n₆, n₇⟩ := digit_ne digit
  obtain ⟨j, number⟩ := readNumber_toString exact stops (i + pre.length)
  rw [written, List.cons_append] at number
  have text : pre ++ textBytes (Value.number (.unsigned n)).compact ++ rest =
      pre ++ b :: (bs ++ rest) := by
    rw [Value.compact, Number.render, written]
    simp
  rw [text, readValue, skipBlank_blanks blanks (opens_of_isDigit digit).solid]
  simp only [Cursor.peek, List.head?_cons, digit, if_true]
  rw [number]
  exact Reads.ok pos j

theorem reads_string (i : Nat) (pos : 0 < depth) (blanks : Blanks pre) (s : String) :
    Reads depth (Value.string s).depth (Value.string s).normalize rest
      (readValue (f + 1) depth ⟨pre ++ textBytes (Value.string s).compact ++ rest, i⟩) := by
  have text : pre ++ textBytes (Value.string s).compact ++ rest =
      pre ++ 34 :: (escapedBytes s ++ 34 :: rest) := by
    rw [Value.compact, textBytes_quote]
    simp
  rw [text, readValue, skipBlank_blanks blanks (by decide)]
  simp only [Cursor.peek, List.head?_cons, Cursor.next, List.tail_cons, readString_escaped]
  exact Reads.ok pos _

/-- An array is read one level down, or refused at the last level. -/
theorem reads_array (i : Nat) (pos : 0 < depth) (blanks : Blanks pre) (items : List Value)
    (values : ∀ f' < f, ∀ d, 0 < d → ReadsValue f' d) (exact : (Value.array items).Exact)
    (short : (textBytes (Value.array items).compact).length ≤ f + 1) :
    Reads depth (Value.array items).depth (Value.array items).normalize rest
      (readValue (f + 1) depth ⟨pre ++ textBytes (Value.array items).compact ++ rest, i⟩) := by
  have text : pre ++ textBytes (Value.array items).compact ++ rest =
      pre ++ 91 :: (textBytes (compactItems items) ++ 93 :: rest) := by
    rw [textBytes_compact_array]
    simp
  rw [text, readValue, skipBlank_blanks blanks (by decide)]
  simp only [Cursor.peek, List.head?_cons, Cursor.next, List.tail_cons]
  split
  · exact Reads.refused (by simp [Value.depth]; omega) _
  · rename_i room
    have sizes : (textBytes (Value.array items).compact).length =
        (textBytes (compactItems items)).length + 2 := by
      simp [textBytes_compact_array]
    have inner := @readItems_first f (depth - 1)
      (fun f' below => values f' below (depth - 1) (by omega)) (by omega) items exact rest
      (i + pre.length + 1) (by omega)
    exact Reads.nest inner (by omega) Value.array

/-- An object is read one level down, or refused at the last level. -/
theorem reads_object (i : Nat) (pos : 0 < depth) (blanks : Blanks pre)
    (members : List (String × Value)) (values : ∀ f' < f, ∀ d, 0 < d → ReadsValue f' d)
    (exact : (Value.object members).Exact)
    (short : (textBytes (Value.object members).compact).length ≤ f + 1) :
    Reads depth (Value.object members).depth (Value.object members).normalize rest
      (readValue (f + 1) depth ⟨pre ++ textBytes (Value.object members).compact ++ rest, i⟩) := by
  have text : pre ++ textBytes (Value.object members).compact ++ rest =
      pre ++ 123 :: (textBytes (compactMembers members) ++ 125 :: rest) := by
    rw [textBytes_compact_object]
    simp
  rw [text, readValue, skipBlank_blanks blanks (by decide)]
  simp only [Cursor.peek, List.head?_cons, Cursor.next, List.tail_cons]
  split
  · exact Reads.refused (by simp [Value.depth]; omega) _
  · rename_i room
    have sizes : (textBytes (Value.object members).compact).length =
        (textBytes (compactMembers members)).length + 2 := by
      simp [textBytes_compact_object]
    have below : ∀ f' < f, ReadsValue f' (depth - 1) :=
      fun f' fewer => values f' fewer (depth - 1) (by omega)
    cases members with
    | nil =>
      obtain ⟨g, rfl⟩ : ∃ g, f = g + 1 := ⟨f - 1, by simp [compactMembers] at sizes; omega⟩
      obtain ⟨j, closed⟩ := readMembers_close true blanks_nil rest g (depth - 1) [] (i + pre.length + 1)
      simp only [compactMembers, textBytes_empty, List.nil_append] at closed ⊢
      rw [closed]
      exact Reads.ok (show membersDepth [] + 1 < depth by rw [membersDepth]; omega) j
    | cons m ms =>
      rw [textBytes_compactMembers] at sizes ⊢
      have inner := @readMembers_first f (depth - 1) below (by omega) [] [] [] blanks_nil
        blanks_nil blanks_nil [] blanks_nil m ms exact [] rest (i + pre.length + 1) (by omega)
      simp only [List.nil_append, List.append_nil] at inner
      exact Reads.nest inner (by omega) Value.object

end Values

/-- The compact text of a value with exact numbers reads back as the value with its objects
sorted, when it nests less deep than the levels allowed, and as the recursion limit
otherwise. -/
theorem reads_value (fuel : Nat) : ∀ depth, 0 < depth → ReadsValue fuel depth := by
  -- strong induction on the fuel: the values inside an array or an object are read with less
  induction fuel using Nat.strongRecOn with
  | ind fuel ih =>
    intro depth pos v pre rest i blanks exact stops short
    have positive := length_compact_pos v exact
    obtain ⟨f, rfl⟩ : ∃ f, fuel = f + 1 := ⟨fuel - 1, by omega⟩
    have values : ∀ f' < f, ∀ d, 0 < d → ReadsValue f' d := fun f' below => ih f' (by omega)
    cases v with
    | null => exact reads_null i pos blanks
    | bool b => exact reads_bool i pos blanks b
    | number n =>
      cases n with
      | unsigned n => exact reads_unsigned i pos blanks n exact stops
      | negative n => exact absurd exact (by simp [Value.Exact])
      | double d => exact absurd exact (by simp [Value.Exact])
    | string s => exact reads_string i pos blanks s
    | array items => exact reads_array i pos blanks items values exact short
    | object members => exact reads_object i pos blanks members values exact short

/-! ## Objects written one member per line -/

/-- Members one per line, as a data definition writes them: a blank after each colon and a line
feed after each comma. -/
def lineMembers (m : String × Value) (ms : List (String × Value)) : String :=
  quote m.1 ++ ": " ++ m.2.compact ++
    String.join (ms.map fun m => ",\n" ++ quote m.1 ++ ": " ++ m.2.compact)

theorem textBytes_lineMembers (m : String × Value) (ms : List (String × Value)) :
    textBytes (lineMembers m ms) = memberBytes [32] m ++ membersTailBytes [32] [10] ms := by
  have colon : textBytes ": " = [58, 32] := by rw [textBytes_eq]; rfl
  have comma : textBytes ",\n" = [44, 10] := by rw [textBytes_eq]; rfl
  have tail : ∀ ms : List (String × Value),
      textBytes (String.join (ms.map fun m => ",\n" ++ quote m.1 ++ ": " ++ m.2.compact)) =
        membersTailBytes [32] [10] ms := by
    intro ms
    induction ms with
    | nil => simp [membersTailBytes]
    | cons m ms ih =>
      rw [List.map_cons, String.join_cons, textBytes_append, ih]
      simp [membersTailBytes, memberBytes, colon, comma]
  rw [lineMembers, textBytes_append, tail]
  simp [memberBytes, colon]

theorem skipBlank_all {pre : List UInt8} (blanks : Blanks pre) (i : Nat) :
    Cursor.skipBlank ⟨pre, i⟩ = ⟨[], i + pre.length⟩ := by
  have skipped := skipBlank_append blanks [] i
  rw [List.append_nil] at skipped
  rw [skipped, Cursor.skipBlank.eq_2 _ (by simp)]

/-- Reading a whole text: what reading its one value gives, when only blanks follow it. -/
theorem parse_of_reads {text : String} {after : List UInt8} (blanks : Blanks after) {n : Nat}
    {x : Value}
    (reads : Reads 128 n x after
      (readValue (2 * (textBytes text).length + 2) 128 ⟨textBytes text, 0⟩)) :
    (n < 128 → parse text = .ok x) ∧
      (128 ≤ n → ∃ line column, parse text = .error ⟨.recursionLimitExceeded, line, column⟩) := by
  have bytes : text.toUTF8.toList = textBytes text := rfl
  constructor
  · intro fits
    obtain ⟨j, read⟩ := reads.result fits
    simp only [parse, bytes, read, ok_bind, skipBlank_all blanks]
    rfl
  · intro deep
    obtain ⟨j, read⟩ : ∃ j, readValue (2 * (textBytes text).length + 2) 128
        ⟨textBytes text, 0⟩ = .error (.recursionLimitExceeded, j) := by
      simpa [Reads, Nat.not_lt.mpr deep] using reads
    simp only [parse, bytes, read]
    exact ⟨_, _, rfl⟩

/-- An object written one member per line, its values compact, as a data definition is
written. -/
def lineObject (m : String × Value) (ms : List (String × Value)) : String :=
  "\x7b\n" ++ lineMembers m ms ++ "\n\x7d\n"

theorem textBytes_lineObject (m : String × Value) (ms : List (String × Value)) :
    textBytes (lineObject m ms) =
      123 :: ([10] ++ memberBytes [32] m ++ membersTailBytes [32] [10] ms ++ [10] ++ [125, 10]) := by
  have open_ : textBytes "\x7b\n" = [123, 10] := by rw [textBytes_eq]; rfl
  have close : textBytes "\n\x7d\n" = [10, 125, 10] := by rw [textBytes_eq]; rfl
  rw [lineObject, textBytes_append, textBytes_append, open_, close, textBytes_lineMembers]
  simp

/-- An object written one member per line reads, with any nesting allowed, as its members
sorted by key, followed by the last line feed; the recursion limit stops it once it nests as
deep as allowed. -/
theorem reads_lineObject (m : String × Value) (ms : List (String × Value))
    (exact : MembersExact (m :: ms)) (depth : Nat) (room : 1 < depth) :
    Reads depth (Value.object (m :: ms)).depth (.object (normalizeMembers [] (m :: ms))) [10]
      (readValue (2 * (textBytes (lineObject m ms)).length + 2) depth
        ⟨textBytes (lineObject m ms), 0⟩) := by
  have text := textBytes_lineObject m ms
  have long : (memberBytes [32] m ++ membersTailBytes [32] [10] ms).length <
      2 * (textBytes (lineObject m ms)).length := by
    rw [text]
    simp only [List.length_cons, List.length_append]
    omega
  have newline : Blanks [10] := blanks_single (by decide)
  generalize (textBytes (lineObject m ms)).length = len at long ⊢
  rw [text, readValue, skipBlank_solid (by decide)]
  simp only [Cursor.peek, List.head?_cons, Cursor.next, List.tail_cons]
  rw [if_neg (by omega)]
  have inner := @readMembers_first (2 * len + 1) (depth - 1)
    (fun f' _ => reads_value f' (depth - 1) (by omega)) (by omega) [32] [10] [10]
    (blanks_single (by decide)) newline newline [10] newline m ms exact [] [10] (0 + 1) (by omega)
  exact Reads.nest inner room Value.object

/-- An object written one member per line reads back as its members sorted by key when it
nests less than 128 levels deep, and fails at the recursion limit otherwise. -/
theorem parse_lineObject (m : String × Value) (ms : List (String × Value))
    (exact : MembersExact (m :: ms)) :
    ((Value.object (m :: ms)).depth < 128 →
        parse (lineObject m ms) = .ok (.object (normalizeMembers [] (m :: ms)))) ∧
      (128 ≤ (Value.object (m :: ms)).depth → ∃ line column,
        parse (lineObject m ms) = .error ⟨.recursionLimitExceeded, line, column⟩) :=
  parse_of_reads (blanks_single (by decide)) (reads_lineObject m ms exact 128 (by decide))

end SyscallTables.Json
