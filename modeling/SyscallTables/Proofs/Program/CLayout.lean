import SyscallTables.Program.Compile

namespace SyscallTables

open Compile

/-! The C rules for laying out structs and unions. Alignments are 1, 2, 4 or 8, and a struct's
is the largest of its fields' and one. A union is as large as its largest field; a struct places
its fields in order, each at the first multiple of its alignment at or past the end of the one
before, so no two overlap. Either is rounded up to a multiple of its alignment, which makes its
size a multiple of every field's alignment. -/

/-- The alignments of scalars, and so of the structs built from them. -/
def IsAlign (a : Nat) : Prop := a ∈ [1, 2, 4, 8]

instance : DecidablePred IsAlign := fun a => inferInstanceAs (Decidable (a ∈ [1, 2, 4, 8]))

namespace IsAlign

variable {a b : Nat}

theorem pos (aligned : IsAlign a) : 0 < a := by
  simp only [IsAlign, List.mem_cons, List.not_mem_nil, or_false] at aligned
  omega

theorem max_one (aligned : IsAlign a) : Max.max a 1 = a := Nat.max_eq_left aligned.pos

theorem max (first : IsAlign a) (second : IsAlign b) : IsAlign (max a b) := by
  rcases Nat.le_total a b with le | le
  · rwa [Nat.max_eq_right le]
  · rwa [Nat.max_eq_left le]

/-- Alignments are powers of two, so the smaller divides the larger. -/
theorem dvd_of_le (first : IsAlign a) (second : IsAlign b) (le : a ≤ b) : a ∣ b :=
  (by decide : ∀ a ∈ [1, 2, 4, 8], ∀ b ∈ [1, 2, 4, 8], a ≤ b → a ∣ b) a first b second le

end IsAlign

section Rounding

theorem le_roundUp (value align : Nat) : value ≤ roundUp value align := by
  have pos : 0 < max align 1 := by omega
  have below := Nat.lt_div_mul_add (a := value + max align 1 - 1) pos
  show value ≤ (value + max align 1 - 1) / max align 1 * max align 1
  omega

theorem dvd_roundUp (value : Nat) {align : Nat} (pos : 0 < align) :
    align ∣ roundUp value align := by
  have one : max align 1 = align := Nat.max_eq_left pos
  show align ∣ (value + max align 1 - 1) / max align 1 * max align 1
  rw [one]
  exact Nat.dvd_mul_left _ _

end Rounding

section Placing

/-- Where fields placed in order from `start` begin: each at the first multiple of its
alignment at or past the end of the one before. -/
def fieldOffsets (start : Nat) : List Field → List Nat
  | [] => []
  | f :: rest =>
    roundUp start f.type.align :: fieldOffsets (roundUp start f.type.align + f.type.size) rest

/-- Where fields placed in order from `start` end. -/
def fieldsEnd (start : Nat) : List Field → Nat
  | [] => start
  | f :: rest => fieldsEnd (roundUp start f.type.align + f.type.size) rest

theorem foldl_eq_fieldsEnd (start : Nat) (fields : List Field) :
    fields.foldl (fun offset f => roundUp offset f.type.align + f.type.size) start =
      fieldsEnd start fields := by
  induction fields generalizing start with
  | nil => rfl
  | cons f rest ih => exact ih _

theorem le_of_mem_fieldOffsets {start o : Nat} {fields : List Field}
    (member : o ∈ fieldOffsets start fields) : start ≤ o := by
  induction fields generalizing start with
  | nil => simp [fieldOffsets] at member
  | cons f rest ih =>
    rcases List.mem_cons.mp member with rfl | later
    · exact le_roundUp start f.type.align
    · have after := ih later
      have placed := le_roundUp start f.type.align
      omega

theorem fieldOffsets_aligned (start : Nat) (fields : List Field)
    (positive : ∀ f ∈ fields, 0 < f.type.align) :
    ∀ p ∈ (fieldOffsets start fields).zip fields, p.2.type.align ∣ p.1 := by
  induction fields generalizing start with
  | nil => simp [fieldOffsets]
  | cons f rest ih =>
    intro p member
    rw [fieldOffsets, List.zip_cons_cons, List.mem_cons] at member
    rcases member with rfl | later
    · exact dvd_roundUp start (positive f (List.mem_cons_self ..))
    · exact ih _ (fun g inRest => positive g (List.mem_cons_of_mem f inRest)) p later

theorem fieldOffsets_disjoint (start : Nat) (fields : List Field) :
    ((fieldOffsets start fields).zip fields).Pairwise fun a b => a.1 + a.2.type.size ≤ b.1 := by
  induction fields generalizing start with
  | nil => simp [fieldOffsets]
  | cons f rest ih =>
    rw [fieldOffsets, List.zip_cons_cons, List.pairwise_cons]
    refine ⟨fun ⟨o, g⟩ member => ?_, ih _⟩
    exact le_of_mem_fieldOffsets (List.of_mem_zip member).1

end Placing

/-- A struct or union laid out by the C rules. -/
structure RecordDesc.FollowsC (d : RecordDesc) : Prop where
  align : (1 :: d.fields.map (·.type.align)).max? = some d.align
  unionSize : d.union = true → ∃ largest, (0 :: d.fields.map (·.type.size)).max? = some largest ∧
    d.size = roundUp largest d.align
  structSize : d.union = false → d.size = roundUp (fieldsEnd 0 d.fields) d.align
  offsets : d.union = false → ∀ p ∈ (fieldOffsets 0 d.fields).zip d.fields, p.2.type.align ∣ p.1
  disjoint : d.union = false →
    ((fieldOffsets 0 d.fields).zip d.fields).Pairwise fun a b => a.1 + a.2.type.size ≤ b.1
  multiple : ∀ f ∈ d.fields, f.type.align ∣ d.size

/-- Fields whose alignments are 1, 2, 4 or 8 are laid out by the C rules, under an alignment
that is one of those too. -/
theorem layoutOf_followsC (name : String) (union : Bool) (fields : List Field)
    (aligned : ∀ f ∈ fields, IsAlign f.type.align) :
    RecordDesc.FollowsC ⟨name, union, (layoutOf union fields).1, (layoutOf union fields).2,
      fields⟩ ∧ IsAlign (layoutOf union fields).2 := by
  have largest : (1 :: fields.map (·.type.align)).max? = some (layoutOf union fields).2 :=
    List.max?_cons'
  obtain ⟨chosen, greatest⟩ := List.max?_eq_some_iff.mp largest
  have alignOk : IsAlign (layoutOf union fields).2 := by
    rcases List.mem_cons.mp chosen with one | ofField
    · rw [one]
      decide
    · obtain ⟨f, member, same⟩ := List.mem_map.mp ofField
      exact same ▸ aligned f member
  -- the size is rounded up to the alignment, which every field's alignment divides
  have rounded : (layoutOf union fields).2 ∣ (layoutOf union fields).1 :=
    dvd_roundUp _ alignOk.pos
  have multiple : ∀ f ∈ fields, f.type.align ∣ (layoutOf union fields).1 := fun f member =>
    Nat.dvd_trans ((aligned f member).dvd_of_le alignOk
      (greatest _ (List.mem_cons_of_mem _ (List.mem_map_of_mem member)))) rounded
  refine ⟨⟨largest,
    fun (isUnion : union = true) => ⟨_, List.max?_cons', by simp [layoutOf, isUnion]⟩,
    fun (isStruct : union = false) => by simp [layoutOf, isStruct, foldl_eq_fieldsEnd],
    fun _ => fieldOffsets_aligned 0 fields fun f member => (aligned f member).pos,
    fun _ => fieldOffsets_disjoint 0 fields, multiple⟩, alignOk⟩

namespace TypeDesc

/-- A type and the types it is built from: what a pointer points to. -/
def parts : TypeDesc → List TypeDesc
  | .ptr elem size => .ptr elem size :: elem.parts
  | t => [t]

section Parts

variable (n : String) (value : UInt64) (values : List ConstValue) (elem : TypeDesc)
  (size align : Nat)

@[simp] theorem parts_int : (int size).parts = [int size] := rfl
@[simp] theorem parts_const : (const n value size).parts = [const n value size] := rfl
@[simp] theorem parts_flags : (flags values size).parts = [flags values size] := rfl
@[simp] theorem parts_ptr : (ptr elem size).parts = ptr elem size :: elem.parts := rfl
@[simp] theorem parts_resource : (resource n size).parts = [resource n size] := rfl
@[simp] theorem parts_record : (record n size align).parts = [record n size align] := rfl
@[simp] theorem parts_recordRef : (recordRef n).parts = [recordRef n] := rfl

end Parts

theorem self_mem_parts (t : TypeDesc) : t ∈ t.parts := by
  cases t <;> simp

end TypeDesc

namespace Program

/-- Every type a program holds: the arguments and return types of its syscalls, the fields of
its structs and the bases of its resources. -/
def types (p : Program) : List TypeDesc :=
  p.syscalls.flatMap (fun c => c.args.map (·.type) ++ c.ret.toList) ++
    p.records.flatMap (fun d => d.fields.map (·.type)) ++ p.resources.map (·.base)

/-- A program laid out by the C rules: each struct follows them under an alignment of 1, 2, 4
or 8, every type in it has such an alignment, and every struct embedded in a type carries the
size and alignment of the struct of its name. -/
structure FollowsCLayout (p : Program) : Prop where
  records : ∀ d ∈ p.records, d.FollowsC ∧ IsAlign d.align
  aligned : ∀ t ∈ p.types, ∀ u ∈ t.parts, IsAlign u.align
  embedded : ∀ t ∈ p.types, ∀ n size align, TypeDesc.record n size align ∈ t.parts →
    ∃ d ∈ p.records, d.name = n ∧ d.size = size ∧ d.align = align

end Program

end SyscallTables
