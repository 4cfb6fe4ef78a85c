import SyscallTables.Proofs.Compile.Alignment

namespace SyscallTables.Compile

open Description

/-! Where the compiler's steps are safe without a check. Every type the reader builds applies a
name to at least one argument, at every depth and whatever it reports, so resolving a const
always finds a first argument. Every alignment the compiler rounds to is positive, for any
target: a scalar's is its size or one, a struct's the largest of its fields' and one, and the
state carries that for the structs laid out and the resource types. Main statement:
`unchecked_steps_safe_on_read_descriptions`. -/

section Positive

theorem align_pos_of_not_record {t : TypeDesc} (notRecord : ∀ n size a, t ≠ .record n size a) :
    0 < t.align := by
  cases t with
  | record n size a => exact absurd rfl (notRecord n size a)
  | _ => exact Nat.lt_of_lt_of_le Nat.one_pos (Nat.le_max_right _ 1)

theorem foldl_max_pos (l : List Nat) {a : Nat} (pos : 0 < a) : 0 < l.foldl max a := by
  induction l generalizing a with
  | nil => exact pos
  | cons x l ih => exact ih (Nat.lt_of_lt_of_le pos (Nat.le_max_left a x))

/-- A struct's alignment is the largest of its fields' and one. -/
theorem layoutOf_align_pos (union : Bool) (fields : List Field) :
    0 < (layoutOf union fields).2 :=
  foldl_max_pos _ Nat.one_pos

/-- Every alignment a state hands out is positive: those of the structs laid out and those of the
resource types. -/
structure AlignsPositive (s : State) : Prop where
  layouts : ∀ n l, s.layouts.lookup n = some (some l) → 0 < l.2
  resources : ∀ n t, s.resourceTypes.lookup n = some t → 0 < t.align

variable {env : Env} {s s' : State}

theorem AlignsPositive.empty : AlignsPositive {} where
  layouts _ _ bound := by cases bound
  resources _ _ bound := by cases bound

theorem AlignsPositive.report (pos : AlignsPositive s) (p : Position) (m : String) :
    AlignsPositive (s.report p m) :=
  ⟨pos.layouts, pos.resources⟩

/-- Binding a struct's layout to none or to a positive alignment keeps every alignment
positive. -/
theorem AlignsPositive.bind (pos : AlignsPositive s) {name : String} {v : Option (Nat × Nat)}
    (positive : ∀ l, v = some l → 0 < l.2) (layouts : s'.layouts = bind s.layouts name v)
    (resources : s'.resourceTypes = s.resourceTypes) : AlignsPositive s' := by
  refine ⟨fun n l bound => ?_, fun n t bound => pos.resources n t (resources ▸ bound)⟩
  rw [layouts, lookup_bind] at bound
  split at bound
  · exact positive l (Option.some.inj bound)
  · exact pos.layouts n l bound

/-- A way of laying out structs that keeps every alignment positive and gives a positive one. -/
def KeepsPositive (layout : Layout) : Prop :=
  ∀ n s, AlignsPositive s → AlignsPositive (layout n s).2 ∧ ∀ l, (layout n s).1 = some l → 0 < l.2

end Positive

section Resolving

variable {env : Env} {layout : Layout} {p : Position} {r : Refs} {s : State}

theorem intType_align_pos {e : TypeExpr} {t : TypeDesc} (typed : (intType env e p s).1 = some t) :
    0 < t.align := by
  unfold intType at typed
  split at typed
  · cases typed
    exact align_pos_of_not_record (by simp)
  · cases typed

theorem resolveName_align_pos (spec : KeepsPositive layout) (pos : AlignsPositive s)
    {name : String} {t : TypeDesc} (resolved : (resolveName env layout name p r s).1 = some t) :
    0 < t.align := by
  revert resolved
  fun_cases resolveName env layout name p r s with
  | case1 integer t' s₁ typed =>
    intro resolved
    exact intType_align_pos (show (intType env (.ident name) p s).1 = some t by
      simpa [typed] using resolved)
  | case3 _ _ resource => exact pos.resources name t
  | case4 _ _ _ found size align s₁ laid =>
    intro resolved
    cases resolved
    have laidOut := (spec name s pos).2 (size, align) (by rw [laid])
    exact laidOut
  | _ => simp

theorem resolveConst_align_pos {args : List TypeExpr} {t : TypeDesc}
    (resolved : (resolveConst env args p r s).1 = some t) : 0 < t.align := by
  revert resolved
  fun_cases resolveConst env args p r s with
  | case4 => exact fun resolved => by cases resolved; exact align_pos_of_not_record (by simp)
  | case6 => exact fun resolved => by cases resolved; exact align_pos_of_not_record (by simp)
  | _ => simp

/-- Only a struct named without arguments takes its alignment from the layout; every other type
aligns to its size or one. -/
theorem resolve_align_pos (spec : KeepsPositive layout) (e : TypeExpr) (pos : AlignsPositive s)
    {t : TypeDesc} (resolved : (resolve env layout e p r s).1 = some t) : 0 < t.align := by
  revert resolved
  fun_cases resolve env layout e p r s with
  | case1 name => exact resolveName_align_pos spec pos
  | case2 args => exact resolveConst_align_pos
  | case3 args =>
    intro resolved
    obtain ⟨values, rfl⟩ := resolveFlags_fits resolved
    exact align_pos_of_not_record (by simp)
  | case4 =>
    intro resolved
    cases resolved
    exact align_pos_of_not_record (by simp)
  | case5 | case6 =>
    intro resolved
    obtain ⟨u, -, rfl⟩ := Option.map_eq_some_iff.mp resolved
    exact align_pos_of_not_record (by simp)
  | case7 => simp
  | case8 => simp

theorem resolve_positive (spec : KeepsPositive layout) (e : TypeExpr) (pos : AlignsPositive s) :
    AlignsPositive (resolve env layout e p r s).2.2 :=
  resolve_preserves AlignsPositive (fun _ p m _ pos => pos.report p m) (fun _ => True)
    (fun n s _ pos => (spec n s pos).1) e (fun _ _ => trivial) pos

/-- Resolving fields from a state whose alignments are positive keeps them so, and every field
kept has a positive alignment. -/
theorem resolveFields_align_pos (spec : KeepsPositive layout) (fields : List Description.Field)
    (pos : AlignsPositive s) :
    AlignsPositive (resolveFields env layout fields r s).2.2 ∧
      ∀ f ∈ (resolveFields env layout fields r s).1.1, 0 < f.type.align := by
  revert pos
  fun_induction resolveFields env layout fields r s with
  | case1 r s => exact fun pos => ⟨pos, by simp⟩
  | case2 f rest r s r₁ s₁ fs ok r₂ s₂ later t resolved ih =>
    intro pos
    have kept : AlignsPositive (resolve env layout f.type f.position r s).2.2 :=
      resolve_positive spec f.type pos
    have typed := resolve_align_pos spec f.type pos (p := f.position) (r := r)
      (show (resolve env layout f.type f.position r s).1 = some t by simp [resolved])
    rw [resolved] at kept
    obtain ⟨posRest, restAligned⟩ := ih kept
    rw [later] at posRest restAligned
    refine ⟨posRest, fun g member => ?_⟩
    rcases List.mem_cons.mp member with rfl | inRest
    · exact typed
    · exact restAligned g inRest
  | case3 f rest r s r₁ s₁ fs ok r₂ s₂ later resolved ih =>
    intro pos
    have kept : AlignsPositive (resolve env layout f.type f.position r s).2.2 :=
      resolve_positive spec f.type pos
    rw [resolved] at kept
    obtain ⟨posRest, restAligned⟩ := ih kept
    rw [later] at posRest restAligned
    exact ⟨posRest, restAligned⟩

end Resolving

section Laying

variable {env : Env} {s : State}

/-- The fields of a struct opened from a state whose alignments are positive. -/
theorem fields_positive {fewer : Nat} (inner : KeepsPositive (recordLayout env fewer))
    (pos : AlignsPositive s) {name : String} {fields : List Description.Field}
    {resolvedFields : List Field} {ok : Bool} {refs : Refs} {s₂ : State}
    (resolved : resolveFields env (recordLayout env fewer) fields {}
      { s with inProgress := s.inProgress ++ [name] } = ((resolvedFields, ok), refs, s₂)) :
    AlignsPositive s₂ ∧ ∀ f ∈ resolvedFields, 0 < f.type.align := by
  have opened : AlignsPositive { s with inProgress := s.inProgress ++ [name] } :=
    ⟨pos.layouts, pos.resources⟩
  have kept := @resolveFields_align_pos env _ {} _ inner fields opened
  rwa [resolved] at kept

/-- Every struct is laid out with a positive alignment, and the state keeps all its alignments
positive, whatever the fuel. -/
theorem recordLayout_positive (fuel : Nat) : KeepsPositive (recordLayout env fuel) := by
  refine recordLayout_induction (fun _ layout => KeepsPositive layout)
    (fun fuel inner name s pos => ?_) fuel
  have step : LayoutStep env fuel name s (recordLayout env fuel name s) :=
    recordLayout_step fuel name s
  generalize recordLayout env fuel name s = result at step ⊢
  cases step with
  | unknown => exact ⟨pos, fun _ none => by cases none⟩
  | known node found l laid => exact ⟨pos, fun l' same => pos.layouts name l' (same ▸ laid)⟩
  | recursive node found fresh stuck =>
    exact ⟨(pos.report node.position (recursionMessage name)).bind (fun _ none => by cases none)
      rfl rfl, fun _ none => by cases none⟩
  | failed node fewer more found fresh idle fields ok refs s₂ resolved failing =>
    obtain ⟨after, -⟩ := fields_positive (inner fewer more) pos resolved
    exact ⟨after.bind (fun _ none => by cases none) rfl rfl, fun _ none => by cases none⟩
  | laidOut node fewer more found fresh idle fields refs s₂ resolved passing size align sized =>
    obtain ⟨after, -⟩ := fields_positive (inner fewer more) pos resolved
    have aligned : 0 < align := by
      have own := layoutOf_align_pos node.union fields
      rwa [sized] at own
    exact ⟨after.bind (fun l same => by cases same; exact aligned) rfl rfl,
      fun l same => by cases same; exact aligned⟩

end Laying

section Phases

variable {env : Env} {s : State}

theorem compileResource_positive (node : Description.Resource) (pos : AlignsPositive s) :
    AlignsPositive (compileResource env node s).2 := by
  have typed : AlignsPositive (intType env node.base node.position s).2 :=
    intType_preserves AlignsPositive (fun _ p m _ pos => pos.report p m) node.base pos
  fun_cases compileResource env node s with
  | case1 s₁ untyped =>
    rw [untyped] at typed
    exact typed
  | case2 base s₁ baseTyped =>
    rename_i s₂ values unsupported s₃ folded
    rw [baseTyped] at typed
    -- a resource's type aligns to its size or one
    have retyped : AlignsPositive s₂ := by
      refine ⟨typed.layouts, fun n t bound => ?_⟩
      by_cases here : n = node.name
      · subst here
        simp only [s₂, lookup_bind, ite_true, Option.some.injEq] at bound
        rw [← bound]
        exact align_pos_of_not_record (by simp)
      · simp only [s₂, lookup_bind, if_neg here] at bound
        exact typed.resources n t bound
    have valued : AlignsPositive (node.values.foldl (resourceValue env) ([], [], s₂)).2.2 :=
      resourceValues_preserves AlignsPositive (fun _ p m _ pos => pos.report p m) node.values
        ([], [], s₂) retyped
    rwa [folded] at valued

theorem compileResources_positive (nodes : List Description.Resource)
    (acc : List Resource × List String × State) (pos : AlignsPositive acc.2.2) :
    AlignsPositive (nodes.foldl (resourceStep env) acc).2.2 := by
  induction nodes generalizing acc with
  | nil => exact pos
  | cons node rest ih => exact ih _ (compileResource_positive node pos)

theorem compileAll_positive (env : Env) : AlignsPositive (compileAll env).2 := by
  have laidOut : ∀ n s, AlignsPositive s →
      AlignsPositive (recordLayout env env.description.records.length n s).2 :=
    fun n s pos => (recordLayout_positive _ n s pos).1
  have resourced : AlignsPositive (compileResources env env.description.resources {}).2.2 :=
    compileResources_positive env.description.resources ([], [], {}) AlignsPositive.empty
  exact compileAll_after_layout AlignsPositive (fun _ p m _ pos => pos.report p m)
    (fun _ _ pos => ⟨pos.layouts, pos.resources⟩) laidOut
    (layOutRecords_preserves AlignsPositive laidOut _ resourced)

end Phases

/-- The compiler's unchecked steps are safe on what the reader gathers. Every type the reader
builds from any files, whatever it reports, applies a name to at least one argument at every
depth, so resolving a const always finds a first argument. For any target and constants, every
alignment is positive from the empty state on: once the resources are compiled, every struct
laid out from such a state keeps it so and gets a positive alignment, every field resolved for
a struct has one and so has the struct itself, so nothing is rounded to a zero alignment; and
the state compiling ends in is still such a state. -/
theorem unchecked_steps_safe_on_read_descriptions :
    (∀ (t : FileTree) (cwd : Location) (paths : List Path),
      (paths.foldl (Gathered.addFile t cwd) {}).description.WellFormed) ∧
    ∀ env : Env,
      AlignsPositive (compileResources env env.description.resources {}).2.2 ∧
      (∀ fuel, KeepsPositive (recordLayout env fuel)) ∧
      (∀ fuel fields r s, AlignsPositive s →
        ∀ f ∈ (resolveFields env (recordLayout env fuel) fields r s).1.1, 0 < f.type.align) ∧
      (∀ union fields, 0 < (layoutOf union fields).2) ∧
      AlignsPositive (compileAll env).2 := by
  refine ⟨fun t cwd paths => ?_, fun env => ⟨?_, recordLayout_positive, ?_, layoutOf_align_pos,
    compileAll_positive env⟩⟩
  · -- each file read keeps every type well formed, whatever it reports
    exact List.foldlRecOn (motive := fun g : Gathered => g.description.WellFormed) _ _
      ⟨by simp, by simp, by simp⟩ fun g wf path _ => Gathered.addFile_wellFormed t cwd g path wf
  · exact compileResources_positive env.description.resources ([], [], {}) AlignsPositive.empty
  · intro fuel fields r s pos
    exact (resolveFields_align_pos (recordLayout_positive fuel) fields pos).2

end SyscallTables.Compile
