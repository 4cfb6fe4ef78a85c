import SyscallTables.Proofs.Compile.Supported
import SyscallTables.Proofs.Program.Names

namespace SyscallTables

/-! Compiling with more constants. Two compilations of the same descriptions for the same target
run in lockstep when the second table binds every constant the first binds: they take the same
branches, lay out the same structs with the same sizes, and differ only in the values of
constants, in the dependencies the second table binds, and in diagnostics for resource values
the second table binds. So the second compilation reports no diagnostic the first does not,
keeps every syscall and struct the first keeps, and leaves unsupported exactly the names the
first leaves unsupported that the second table still lacks. -/

/-- A constant with its value forgotten. -/
def ConstValue.shape (c : ConstValue) : ConstValue := ⟨c.name, 0⟩

/-- A type with the values of its constants forgotten: all that compiling decides without
reading a value. -/
def TypeDesc.shape : TypeDesc → TypeDesc
  | .const n _ s => .const n 0 s
  | .flags vs s => .flags (vs.map ConstValue.shape) s
  | .ptr e s => .ptr e.shape s
  | t => t

/-- A field with the values of its constants forgotten. -/
def Field.shape (f : Field) : Field := ⟨f.name, f.type.shape⟩

@[simp] theorem TypeDesc.size_shape (t : TypeDesc) : t.shape.size = t.size := by
  cases t <;> rfl

@[simp] theorem TypeDesc.align_shape (t : TypeDesc) : t.shape.align = t.align := by
  cases t <;> rfl

/-- Whether a table lacks a constant. -/
def ConstTable.lacks (consts : ConstTable) (name : String) : Bool := !consts.contains name

namespace Compile

/-- The dependencies of `r` less the constants a table binds. -/
def Refs.without (consts : ConstTable) (r : Refs) : Refs :=
  { r with missing := r.missing.filter consts.lacks }

@[simp] theorem Refs.without_records (consts : ConstTable) (r : Refs) :
    (r.without consts).records = r.records := rfl

theorem Refs.without_needRecord (consts : ConstTable) (r : Refs) (n : String) :
    (r.without consts).needRecord n = (r.needRecord n).without consts := rfl

theorem filter_addName (p : String → Bool) (names : List String) (n : String) :
    (addName names n).filter p = if p n then addName (names.filter p) n else names.filter p := by
  by_cases kept : p n
  · by_cases present : n ∈ names
    · have presentKept : n ∈ names.filter p := List.mem_filter.mpr ⟨present, kept⟩
      simp [addName, present, presentKept, kept]
    · have absentKept : n ∉ names.filter p := fun member => present (List.mem_filter.mp member).1
      simp [addName, present, absentKept, kept, List.filter_append]
  · by_cases present : n ∈ names
    · simp [addName, present, kept]
    · simp [addName, present, kept, List.filter_append]

theorem filter_foldl_addName (p : String → Bool) (names acc : List String) :
    (names.foldl addName acc).filter p = (names.filter p).foldl addName (acc.filter p) := by
  induction names generalizing acc with
  | nil => rfl
  | cons n names ih =>
    rw [List.foldl_cons, ih, filter_addName]
    by_cases kept : p n <;> simp [kept]

/-- Two states of compiling the same descriptions for one target, the second with a table `c₂`
that binds every constant the first binds. The second has a sublist of the first's
diagnostics, the same resource types, layouts and structs in progress, and the recorded
dependencies of the first less the constants `c₂` binds; while `described` holds, both have
described the same structs under the same names. Keeping structs in a program, which the second
may do for more of them, ends that last part. -/
structure Agrees (c₂ : ConstTable) (described : Prop) (s₁ s₂ : State) : Prop where
  diagnostics : s₂.diagnostics.Sublist s₁.diagnostics
  resourceTypes : s₂.resourceTypes = s₁.resourceTypes
  layouts : s₂.layouts = s₁.layouts
  inProgress : s₂.inProgress = s₁.inProgress
  recordRefs : s₂.recordRefs = s₁.recordRefs.map fun e => (e.1, e.2.without c₂)
  descs : described →
    s₂.descs.map (fun e => (e.1, e.2.name)) = s₁.descs.map fun e => (e.1, e.2.name)

variable {c₂ : ConstTable} {D : Prop} {s₁ s₂ : State}

theorem Agrees.start : Agrees c₂ D {} {} :=
  ⟨List.Sublist.refl _, rfl, rfl, rfl, rfl, fun _ => rfl⟩

/-- Both compilations report the same problem. -/
theorem Agrees.report (h : Agrees c₂ D s₁ s₂) (p : Position) (m : String) :
    Agrees c₂ D (s₁.report p m) (s₂.report p m) :=
  { h with diagnostics := h.diagnostics.append_right _ }

/-- Only the first compilation reports a problem. -/
theorem Agrees.reportFirst (h : Agrees c₂ D s₁ s₂) (p : Position) (m : String) :
    Agrees c₂ D (s₁.report p m) s₂ :=
  { h with diagnostics := h.diagnostics.trans (List.sublist_append_left _ _) }

theorem map_bind (f : α → β) (m : List (String × α)) (k : String) (v : α) :
    (bind m k v).map (fun e => (e.1, f e.2)) = bind (m.map fun e => (e.1, f e.2)) k (f v) := by
  simp only [bind, List.map_append, List.map_cons, List.map_nil, List.filter_map]
  rfl

/-- Both compilations settle a struct alike: laid out, or failed. -/
theorem Agrees.settle (h : Agrees c₂ D s₁ s₂) (name : String) (l : Option (Nat × Nat)) :
    Agrees c₂ D { s₁ with layouts := bind s₁.layouts name l }
      { s₂ with layouts := bind s₂.layouts name l } :=
  { h with layouts := by rw [h.layouts] }

/-- Both compilations start laying out the same struct. -/
theorem Agrees.open (h : Agrees c₂ D s₁ s₂) (name : String) :
    Agrees c₂ D { s₁ with inProgress := s₁.inProgress ++ [name] }
      { s₂ with inProgress := s₂.inProgress ++ [name] } :=
  { h with inProgress := by rw [h.inProgress] }

/-- Both compilations finish the fields of the same struct and record what they depend on. -/
theorem Agrees.close (h : Agrees c₂ D s₁ s₂) (name : String) (refs : Refs) :
    Agrees c₂ D
      { s₁ with inProgress := s₁.inProgress.filter (· != name),
                recordRefs := bind s₁.recordRefs name refs }
      { s₂ with inProgress := s₂.inProgress.filter (· != name),
                recordRefs := bind s₂.recordRefs name (refs.without c₂) } :=
  { h with inProgress := by rw [h.inProgress], recordRefs := by rw [h.recordRefs, map_bind] }

/-- Both compilations describe the same struct under its name. -/
theorem Agrees.describe (h : Agrees c₂ D s₁ s₂) (name : String) (l : Option (Nat × Nat))
    {d₁ d₂ : RecordDesc} (named : d₂.name = d₁.name) :
    Agrees c₂ D { s₁ with layouts := bind s₁.layouts name l, descs := bind s₁.descs name d₁ }
      { s₂ with layouts := bind s₂.layouts name l, descs := bind s₂.descs name d₂ } :=
  { h with
    layouts := by rw [h.layouts]
    descs := fun described => by
      rw [map_bind (·.name) s₂.descs, map_bind (·.name) s₁.descs, h.descs described, named] }

/-- Results of one step of the two compilations agree: the same result up to `shape`, the
dependencies of the first less the constants `c₂` binds, and agreeing states. -/
structure ResultsAgree (c₂ : ConstTable) (described : Prop) (shape : α → β)
    (x₁ x₂ : α × Refs × State) : Prop where
  value : shape x₂.1 = shape x₁.1
  refs : x₂.2.1 = x₁.2.1.without c₂
  states : Agrees c₂ described x₁.2.2 x₂.2.2

/-- Two ways of laying out structs that agree on agreeing states. -/
def LayoutsAgree (c₂ : ConstTable) (layout₁ layout₂ : Layout) : Prop :=
  ∀ D n s₁ s₂, Agrees c₂ D s₁ s₂ →
    (layout₂ n s₂).1 = (layout₁ n s₁).1 ∧ Agrees c₂ D (layout₁ n s₁).2 (layout₂ n s₂).2

section Resolving

variable {env : Env}

theorem intType_agrees (h : Agrees c₂ D s₁ s₂) (e : TypeExpr) (p : Position) :
    (intType { env with consts := c₂ } e p s₂).1 = (intType env e p s₁).1 ∧
      Agrees c₂ D (intType env e p s₁).2 (intType { env with consts := c₂ } e p s₂).2 := by
  cases sized : intSize env.target.ptrSize e with
  | some size => exact ⟨by simp [intType, sized], by simpa [intType, sized] using h⟩
  | none => exact ⟨by simp [intType, sized], by simpa [intType, sized] using h.report p _⟩

variable (wider : ∀ n, env.consts.contains n → c₂.contains n)
include wider

theorem lookup_without (name : String) (r : Refs) :
    (lookup { env with consts := c₂ } name (r.without c₂)).2 = (lookup env name r).2.without c₂ := by
  unfold lookup
  cases first : env.consts.get? name with
  | some v =>
    obtain ⟨w, second⟩ : ∃ w, c₂.get? name = some w :=
      Option.isSome_iff_exists.mp (wider name (by simp [ConstTable.contains, first]))
    simp [second]
  | none =>
    cases second : c₂.get? name with
    | some w =>
      have bound : c₂.contains name = true := by simp [ConstTable.contains, second]
      simp [Refs.without, ConstTable.lacks, filter_addName, bound]
    | none =>
      have unbound : c₂.contains name = false := by simp [ConstTable.contains, second]
      simp [Refs.without, ConstTable.lacks, filter_addName, unbound]

theorem constValue_agrees (h : Agrees c₂ D s₁ s₂) (arg : TypeExpr) (p : Position) (r : Refs) :
    ResultsAgree c₂ D (Option.map ConstValue.shape) (constValue env arg p r s₁)
      (constValue { env with consts := c₂ } arg p (r.without c₂) s₂) := by
  cases arg with
  | ident name =>
    cases literal : Literal.parse name with
    | some v => exact ⟨by simp [constValue, literal], by simp [constValue, literal], by
        simpa [constValue, literal] using h⟩
    | none => exact ⟨by simp [constValue, literal, ConstValue.shape], by
        simpa [constValue, literal] using lookup_without wider name r, by
        simpa [constValue, literal] using h⟩
  | apply name args => exact ⟨rfl, rfl, h.report p _⟩

theorem constValues_agrees (h : Agrees c₂ D s₁ s₂) (args : List TypeExpr) (p : Position)
    (r : Refs) :
    ResultsAgree c₂ D (Option.map (List.map ConstValue.shape))
      (constValues env p args r s₁) (constValues { env with consts := c₂ } p args (r.without c₂) s₂) := by
  induction args generalizing r s₁ s₂ with
  | nil => exact ⟨rfl, rfl, h⟩
  | cons a rest ih =>
    have first := constValue_agrees wider h a p r
    rcases e₁ : constValue env a p r s₁ with ⟨o₁, r₁, t₁⟩
    rcases e₂ : constValue { env with consts := c₂ } a p (r.without c₂) s₂ with ⟨o₂, r₂, t₂⟩
    rw [e₁, e₂] at first
    obtain ⟨value, refs, states⟩ := first
    simp only at value refs states
    subst refs
    cases o₁ <;> cases o₂ <;> simp at value
    · exact ⟨by simp [constValues, e₁, e₂], by simp [constValues, e₁, e₂], by
        simpa [constValues, e₁, e₂] using states⟩
    · rename_i v₁ v₂
      have later := ih states r₁
      rcases f₁ : constValues env p rest r₁ t₁ with ⟨w₁, q₁, u₁⟩
      rcases f₂ : constValues { env with consts := c₂ } p rest (r₁.without c₂) t₂ with ⟨w₂, q₂, u₂⟩
      rw [f₁, f₂] at later
      obtain ⟨laterValue, laterRefs, laterStates⟩ := later
      simp only at laterValue laterRefs laterStates
      cases w₁ <;> cases w₂ <;> simp at laterValue
      · exact ⟨by simp [constValues, e₁, e₂, f₁, f₂], by simpa [constValues, e₁, e₂, f₁, f₂]
          using laterRefs, by simpa [constValues, e₁, e₂, f₁, f₂] using laterStates⟩
      · exact ⟨by simp [constValues, e₁, e₂, f₁, f₂, value, laterValue], by
          simpa [constValues, e₁, e₂, f₁, f₂] using laterRefs, by
          simpa [constValues, e₁, e₂, f₁, f₂] using laterStates⟩

omit wider in
theorem resolveName_agrees {layout₁ layout₂ : Layout} (layouts : LayoutsAgree c₂ layout₁ layout₂)
    (h : Agrees c₂ D s₁ s₂) (name : String) (p : Position) (r : Refs) :
    ResultsAgree c₂ D (Option.map TypeDesc.shape) (resolveName env layout₁ name p r s₁)
      (resolveName { env with consts := c₂ } layout₂ name p (r.without c₂) s₂) := by
  have resource : isResource { env with consts := c₂ } name = isResource env name := rfl
  have record : findRecord { env with consts := c₂ } name = findRecord env name := rfl
  unfold resolveName
  rw [resource, record]
  split_ifs with builtin keyword isRes isRec
  · obtain ⟨same, agrees⟩ : _ ∧ Agrees c₂ D (intType env (.ident name) p s₁).2 _ :=
      intType_agrees h (.ident name) p
    rcases i₁ : intType env (.ident name) p s₁ with ⟨o₁, t₁⟩
    rcases i₂ : intType { env with consts := c₂ } (.ident name) p s₂ with ⟨o₂, t₂⟩
    rw [i₁, i₂] at same agrees
    simp only at same agrees
    exact ⟨by simp [same], rfl, agrees⟩
  · exact ⟨rfl, rfl, h.report p _⟩
  · exact ⟨by simp [h.resourceTypes], rfl, h⟩
  · -- a struct: both compilations lay it out alike
    obtain ⟨same, agrees⟩ := layouts D name s₁ s₂ h
    rcases l₁ : layout₁ name s₁ with ⟨o₁, t₁⟩
    rcases l₂ : layout₂ name s₂ with ⟨o₂, t₂⟩
    rw [l₁, l₂] at same agrees
    subst same
    rcases o₂ with _ | ⟨size, align⟩
    · exact ⟨rfl, Refs.without_needRecord c₂ r name, agrees⟩
    · exact ⟨rfl, Refs.without_needRecord c₂ r name, agrees⟩
  · exact ⟨rfl, rfl, h.report p _⟩

theorem resolveConst_agrees (h : Agrees c₂ D s₁ s₂) (args : List TypeExpr) (p : Position)
    (r : Refs) :
    ResultsAgree c₂ D (Option.map TypeDesc.shape) (resolveConst env args p r s₁)
      (resolveConst { env with consts := c₂ } args p (r.without c₂) s₂) := by
  unfold resolveConst
  split_ifs with long
  · exact ⟨rfl, rfl, h.report p _⟩
  rcases args with _ | ⟨first, rest⟩
  · exact ⟨rfl, rfl, h⟩
  have value := constValue_agrees wider h first p r
  rcases e₁ : constValue env first p r s₁ with ⟨o₁, r₁, t₁⟩
  rcases e₂ : constValue { env with consts := c₂ } first p (r.without c₂) s₂ with ⟨o₂, r₂, t₂⟩
  rw [e₁, e₂] at value
  simp only [e₁, e₂]
  obtain ⟨named, refs, states⟩ := value
  simp only at named refs states
  cases o₁ <;> cases o₂ <;> simp at named
  · exact ⟨rfl, refs, states⟩
  rename_i v₁ v₂
  have sameName : v₂.name = v₁.name := by simpa [ConstValue.shape] using named
  rcases rest with _ | ⟨size, _⟩
  · exact ⟨by simp [TypeDesc.shape, sameName], refs, states⟩
  · -- the size argument is read alike
    obtain ⟨sized, agrees⟩ : _ ∧ Agrees c₂ D (intType env size p t₁).2 _ :=
      intType_agrees states size p
    rcases i₁ : intType env size p t₁ with ⟨_ | w₁, u₁⟩ <;>
      rcases i₂ : intType { env with consts := c₂ } size p t₂ with ⟨_ | w₂, u₂⟩ <;>
      rw [i₁, i₂] at sized agrees <;> simp only [i₁, i₂] <;> simp at sized
    · exact ⟨rfl, refs, agrees⟩
    · exact ⟨by simp [TypeDesc.shape, sameName, sized], refs, agrees⟩

theorem resolveFlags_agrees (h : Agrees c₂ D s₁ s₂) (args : List TypeExpr) (p : Position)
    (r : Refs) :
    ResultsAgree c₂ D (Option.map TypeDesc.shape) (resolveFlags env args p r s₁)
      (resolveFlags { env with consts := c₂ } args p (r.without c₂) s₂) := by
  have values := constValues_agrees wider h args p r
  unfold resolveFlags
  rcases e₁ : constValues env p args r s₁ with ⟨o₁, r₁, t₁⟩
  rcases e₂ : constValues { env with consts := c₂ } p args (r.without c₂) s₂ with ⟨o₂, r₂, t₂⟩
  rw [e₁, e₂] at values
  obtain ⟨named, refs, states⟩ := values
  cases o₁ <;> cases o₂ <;> simp at named
  · exact ⟨rfl, refs, states⟩
  · exact ⟨by simp [TypeDesc.shape, named], refs, states⟩

omit wider in
/-- A pointer to what resolved agrees when what it points to does. -/
theorem ResultsAgree.pointer {x₁ x₂ : Option TypeDesc × Refs × State} (size : Nat)
    (pointee : ResultsAgree c₂ D (Option.map TypeDesc.shape) x₁ x₂) :
    ResultsAgree c₂ D (Option.map TypeDesc.shape)
      (x₁.1.map fun t => .ptr t size, x₁.2.1, x₁.2.2) (x₂.1.map fun t => .ptr t size, x₂.2.1, x₂.2.2) := by
  obtain ⟨value, refs, states⟩ := pointee
  have through : ∀ o : Option TypeDesc, Option.map TypeDesc.shape (o.map fun t => .ptr t size) =
      (o.map TypeDesc.shape).map fun u => .ptr u size := by
    intro o
    cases o <;> rfl
  refine ⟨?_, refs, states⟩
  show Option.map TypeDesc.shape (x₂.1.map _) = Option.map TypeDesc.shape (x₁.1.map _)
  rw [through, through, value]

theorem resolve_agrees {layout₁ layout₂ : Layout} (layouts : LayoutsAgree c₂ layout₁ layout₂)
    (e : TypeExpr) (p : Position) (r : Refs) (s₁ : State) :
    ∀ {s₂}, Agrees c₂ D s₁ s₂ →
      ResultsAgree c₂ D (Option.map TypeDesc.shape) (resolve env layout₁ e p r s₁)
        (resolve { env with consts := c₂ } layout₂ e p (r.without c₂) s₂) := by
  have record : ∀ n, findRecord { env with consts := c₂ } n = findRecord env n := fun _ => rfl
  fun_induction resolve env layout₁ e p r s₁
  case case1 name p r s₁ =>
    intro s₂ h
    unfold resolve
    exact resolveName_agrees layouts h name p r
  case case2 args p r s₁ =>
    intro s₂ h
    unfold resolve
    simpa using resolveConst_agrees wider h args p r
  case case3 args p r s₁ _ =>
    intro s₂ h
    unfold resolve
    simpa using resolveFlags_agrees wider h args p r
  case case4 p r s₁ size n found _ _ =>
    intro s₂ h
    unfold resolve
    simp only [record, found]
    exact ⟨rfl, Refs.without_needRecord c₂ r n, h⟩
  case case5 p r s₁ size n notFound pointee r₁ t₁ resolved _ _ =>
    intro s₂ h
    have named : ResultsAgree c₂ D (Option.map TypeDesc.shape) (resolveName env layout₁ n p r s₁) _ :=
      resolveName_agrees layouts h n p r
    rw [resolved] at named
    unfold resolve
    simp only [record, notFound]
    exact named.pointer size
  case case6 p r s₁ size name args pointee r₁ t₁ resolved _ _ inner =>
    intro s₂ h
    have named := inner h
    rw [resolved] at named
    unfold resolve
    simp only
    exact named.pointer size
  case case7 args p r s₁ _ _ notConst notFlags =>
    intro s₂ h
    unfold resolve
    simp only [notConst, notFlags, ↓reduceIte]
    exact ⟨rfl, rfl, h.report p _⟩
  case case8 name args p r s₁ notConst notFlags notPtr =>
    intro s₂ h
    unfold resolve
    simp only [notConst, notFlags, notPtr, if_false]
    exact ⟨rfl, rfl, h.report p _⟩

theorem resolveFields_agrees {layout₁ layout₂ : Layout} (layouts : LayoutsAgree c₂ layout₁ layout₂)
    (fields : List Description.Field) (r : Refs) (s₁ : State) :
    ∀ {s₂}, Agrees c₂ D s₁ s₂ →
      ResultsAgree c₂ D (Prod.map (List.map Field.shape) id) (resolveFields env layout₁ fields r s₁)
        (resolveFields { env with consts := c₂ } layout₂ fields (r.without c₂) s₂) := by
  induction fields generalizing r s₁ with
  | nil => exact fun h => ⟨rfl, rfl, h⟩
  | cons f rest ih =>
    intro s₂ h
    have first := resolve_agrees wider layouts f.type f.position r s₁ h
    rcases e₁ : resolve env layout₁ f.type f.position r s₁ with ⟨o₁, r₁, t₁⟩
    rcases e₂ : resolve { env with consts := c₂ } layout₂ f.type f.position (r.without c₂) s₂ with
      ⟨o₂, r₂, t₂⟩
    rw [e₁, e₂] at first
    obtain ⟨value, refs, states⟩ := first
    simp only at value refs states
    subst refs
    have later := ih r₁ t₁ states
    rcases f₁ : resolveFields env layout₁ rest r₁ t₁ with ⟨⟨fs₁, ok₁⟩, q₁, u₁⟩
    rcases f₂ : resolveFields { env with consts := c₂ } layout₂ rest (r₁.without c₂) t₂ with
      ⟨⟨fs₂, ok₂⟩, q₂, u₂⟩
    rw [f₁, f₂] at later
    obtain ⟨laterValue, laterRefs, laterStates⟩ := later
    simp only [Prod.map, Prod.mk.injEq, id] at laterValue laterRefs laterStates
    unfold resolveFields
    simp only [e₁, e₂, f₁, f₂]
    cases o₁ <;> cases o₂ <;> simp at value
    · exact ⟨by simp [laterValue], laterRefs, laterStates⟩
    · exact ⟨by simp [Field.shape, value, laterValue], laterRefs, laterStates⟩

omit wider in
theorem layoutOf_shape (union : Bool) {fields₁ fields₂ : List Field}
    (same : fields₂.map Field.shape = fields₁.map Field.shape) :
    layoutOf union fields₂ = layoutOf union fields₁ := by
  have sizes : fields₂.map (·.type.size) = fields₁.map (·.type.size) := by
    have mapped := congrArg (List.map (·.type.size)) same
    simpa [List.map_map, Function.comp_def, Field.shape] using mapped
  have aligns : fields₂.map (·.type.align) = fields₁.map (·.type.align) := by
    have mapped := congrArg (List.map (·.type.align)) same
    simpa [List.map_map, Function.comp_def, Field.shape] using mapped
  have offsets : ∀ start,
      fields₂.foldl (fun offset f => roundUp offset f.type.align + f.type.size) start =
        fields₁.foldl (fun offset f => roundUp offset f.type.align + f.type.size) start := by
    induction fields₁ generalizing fields₂ with
    | nil => simp_all
    | cons f fs ih =>
      cases fields₂ with
      | nil => simp at same
      | cons g gs =>
        simp only [List.map_cons, List.cons.injEq] at same sizes aligns
        intro start
        simp only [List.foldl_cons, sizes.1, aligns.1]
        exact ih same.2 sizes.2 aligns.2 _
  simp only [layoutOf, sizes, aligns, offsets]

/-- Laying out a struct with some fuel agrees between the two compilations when laying out with
one less fuel does. -/
theorem recordLayout_agrees_of {fuel : Nat}
    (inner : ∀ fewer, fuel = fewer + 1 →
      LayoutsAgree c₂ (recordLayout env fewer) (recordLayout { env with consts := c₂ } fewer)) :
    LayoutsAgree c₂ (recordLayout env fuel) (recordLayout { env with consts := c₂ } fuel) := by
  intro D name s₁ s₂ h
  have record : findRecord { env with consts := c₂ } name = findRecord env name := rfl
  rcases found : findRecord env name with _ | node
  · rw [recordLayout, recordLayout, record, found]
    exact ⟨rfl, h⟩
  rcases laid : s₁.layouts.lookup name with _ | l
  swap
  · have laid₂ : s₂.layouts.lookup name = some l := by rw [h.layouts, laid]
    rw [recordLayout, recordLayout, record, found]
    simp only [laid, laid₂]
    exact ⟨trivial, h⟩
  have fresh₂ : s₂.layouts.lookup name = none := by rw [h.layouts, laid]
  -- a struct met again while its fields are resolved, or once the fuel is spent, is reported
  have recursive := (h.report node.position ("struct '" ++ name ++ "' is recursive")).settle name none
  rcases fuel with _ | fewer
  · rw [recordLayout, recordLayout, record, found]
    simp only [laid, fresh₂]
    exact ⟨trivial, recursive⟩
  by_cases busy : s₁.inProgress.contains name
  · have busy₂ : s₂.inProgress.contains name := by rw [h.inProgress]; exact busy
    rw [recordLayout, recordLayout, record, found]
    simp only [laid, fresh₂, busy, busy₂, if_true]
    exact ⟨trivial, recursive⟩
  have free₂ : s₂.inProgress.contains name = false := by rw [h.inProgress]; simpa using busy
  -- the fields are resolved alike, with the layouts of one less fuel
  have fields := resolveFields_agrees wider (inner fewer rfl) node.fields {} _ (h.open name)
  rcases e₁ : resolveFields env (recordLayout env fewer) node.fields {}
    { s₁ with inProgress := s₁.inProgress ++ [name] } with ⟨⟨fs₁, ok₁⟩, refs₁, t₁⟩
  rcases e₂ : resolveFields { env with consts := c₂ } (recordLayout { env with consts := c₂ } fewer)
    node.fields {} { s₂ with inProgress := s₂.inProgress ++ [name] } with ⟨⟨fs₂, ok₂⟩, refs₂, t₂⟩
  have nothing : ({} : Refs).without c₂ = {} := rfl
  rw [nothing, e₁, e₂] at fields
  obtain ⟨value, refs, states⟩ := fields
  simp only [Prod.map, Prod.mk.injEq, id] at value refs states
  subst refs
  have closed := states.close name refs₁
  rw [recordLayout, recordLayout, record, found]
  simp only [laid, fresh₂, Bool.false_eq_true, busy, free₂, if_false]
  simp only [e₁, e₂, value.2]
  -- the struct fails, or is laid out with the same size and alignment, in both
  have failedBefore : (t₂.layouts.lookup name == some none) = (t₁.layouts.lookup name == some none) := by
    rw [states.layouts]
  rw [failedBefore, layoutOf_shape node.union value.1]
  split
  · exact ⟨rfl, closed.settle name none⟩
  · exact ⟨rfl, closed.describe name _ rfl⟩

theorem recordLayout_agrees (fuel : Nat) :
    LayoutsAgree c₂ (recordLayout env fuel) (recordLayout { env with consts := c₂ } fuel) := by
  induction fuel with
  | zero => exact recordLayout_agrees_of wider fun _ impossible => absurd impossible (by omega)
  | succ fewer ih =>
    refine recordLayout_agrees_of wider fun k same => ?_
    obtain rfl : fewer = k := by omega
    exact ih

theorem layOutRecords_agrees (fuel : Nat) (nodes : List Description.Record)
    (h : Agrees c₂ D s₁ s₂) :
    Agrees c₂ D (layOutRecords env fuel nodes s₁)
      (layOutRecords { env with consts := c₂ } fuel nodes s₂) := by
  induction nodes generalizing s₁ s₂ with
  | nil => exact h
  | cons node rest ih => exact ih (recordLayout_agrees wider fuel D node.name s₁ s₂ h).2

end Resolving

/-- Accumulators of a phase agree: the second leaves unsupported exactly what the first leaves
unsupported and `c₂` still lacks, and the states agree. -/
structure Accumulated (c₂ : ConstTable) (described : Prop) (acc₁ acc₂ : α × List String × State) :
    Prop where
  unsupported : acc₂.2.1 = acc₁.2.1.filter c₂.lacks
  states : Agrees c₂ described acc₁.2.2 acc₂.2.2

section Walks

theorem lookup_map_snd (f : α → β) (m : List (String × α)) (k : String) :
    (m.map fun e => (e.1, f e.2)).lookup k = (m.lookup k).map f := by
  induction m with
  | nil => rfl
  | cons e rest ih =>
    obtain ⟨k', v⟩ := e
    by_cases here : k = k'
    · simp [here]
    · simp [List.lookup_cons, beq_eq_false_iff_ne.mpr here, ih]

/-- Dependencies recorded without some constants lead to the same structs. -/
theorem successors_without (refs : List (String × Refs)) (n : String) :
    successors (refs.map fun e => (e.1, e.2.without c₂)) n = successors refs n := by
  simp only [successors, lookup_map_snd]
  cases refs.lookup n <;> rfl

theorem reachable_congr {refs₁ refs₂ : List (String × Refs)}
    (same : ∀ n, successors refs₂ n = successors refs₁ n) (stack visited : List String) :
    reachable refs₂ stack visited = reachable refs₁ stack visited := by
  fun_induction reachable refs₁ stack visited with
  | case1 visited => rw [reachable]
  | case2 name stack visited seen ih => rw [reachable, if_pos seen, ih]
  | case3 name stack visited fresh ih => rw [reachable, if_neg fresh, same, ih]

theorem filter_foldl_missing (refs : List (String × Refs)) (visited acc : List String) :
    (visited.foldl (fun acc n => (((refs.lookup n).map (·.missing)).getD []).foldl addName acc)
        acc).filter c₂.lacks =
      visited.foldl (fun acc n => ((((refs.map fun e => (e.1, e.2.without c₂)).lookup n).map
        (·.missing)).getD []).foldl addName acc) (acc.filter c₂.lacks) := by
  induction visited generalizing acc with
  | nil => rfl
  | cons n visited ih =>
    have filtered : (((refs.map fun e => (e.1, e.2.without c₂)).lookup n).map (·.missing)).getD [] =
        (((refs.lookup n).map (·.missing)).getD []).filter c₂.lacks := by
      rw [lookup_map_snd]
      cases refs.lookup n <;> rfl
    rw [List.foldl_cons, ih, filter_foldl_addName, List.foldl_cons, filtered]

/-- The second compilation finds missing, through the same structs, exactly what the first finds
missing and `c₂` still lacks. -/
theorem transitiveMissing_without
    (refs : s₂.recordRefs = s₁.recordRefs.map fun e => (e.1, e.2.without c₂))
    (start : List String) (extra : Refs) :
    transitiveMissing s₂ start (extra.without c₂) = (transitiveMissing s₁ start extra).filter c₂.lacks := by
  unfold transitiveMissing
  rw [refs, reachable_congr (successors_without s₁.recordRefs), Refs.without_records,
    filter_foldl_missing]
  rfl

end Walks

/-- Agreement while kept items are collected: agreeing accumulators, and every name the first
has kept the second has kept too. -/
structure Keeps (c₂ : ConstTable) (name : α → String) (acc₁ acc₂ : List α × List String × State) :
    Prop extends Accumulated c₂ False acc₁ acc₂ where
  kept : ∀ n ∈ acc₁.1.map name, n ∈ acc₂.1.map name

theorem Agrees.forget (h : Agrees c₂ D s₁ s₂) : Agrees c₂ False s₁ s₂ :=
  { h with descs := False.elim }

/-- Agreement while structs are kept. Under each key the second compilation still holds a
description only where the first holds one of the same name, and where the first still holds
one the second does not, the second has kept it already. -/
structure KeepsAgree (c₂ : ConstTable) (acc₁ acc₂ : List RecordDesc × List String × State) : Prop
    extends Keeps c₂ RecordDesc.name acc₁ acc₂ where
  pending : ∀ k, ∀ d ∈ acc₂.2.2.descs.lookup k,
    (acc₁.2.2.descs.lookup k).map (·.name) = some d.name
  dropped : ∀ k, ∀ d ∈ acc₁.2.2.descs.lookup k, acc₂.2.2.descs.lookup k = none →
    d.name ∈ acc₂.1.map (·.name)

section Kept

variable {acc₁ acc₂ : List RecordDesc × List String × State} {node : Description.Record}

theorem KeepsAgree.start {u₁ u₂ : List String} (h : Agrees c₂ True s₁ s₂)
    (unsupported : u₂ = u₁.filter c₂.lacks) : KeepsAgree c₂ ([], u₁, s₁) ([], u₂, s₂) := by
  have named : ∀ k, (s₂.descs.lookup k).map (·.name) = (s₁.descs.lookup k).map (·.name) := by
    intro k
    have same := congrArg (List.lookup k) (h.descs trivial)
    simpa [lookup_map_snd] using same
  refine ⟨⟨⟨unsupported, h.forget⟩, by simp⟩, fun k d found => ?_, fun k d found gone => ?_⟩
  · rw [← named k, Option.mem_def.mp found]
    rfl
  · have none₁ := named k
    rw [gone, Option.mem_def.mp found] at none₁
    simp at none₁

/-- The missing constants of a struct, in the second compilation. -/
theorem KeepsAgree.missing (keeps : KeepsAgree c₂ acc₁ acc₂) (name : String) :
    transitiveMissing acc₂.2.2 [name] {} =
      (transitiveMissing acc₁.2.2 [name] {}).filter c₂.lacks :=
  transitiveMissing_without keeps.states.recordRefs [name] {}

theorem recordStep_gone (empty : (transitiveMissing acc₁.2.2 [node.name] {}).isEmpty) :
    (recordStep acc₁ node).2.2.descs.lookup node.name = none := by
  obtain ⟨records, unsupported, s⟩ := acc₁
  simp only at empty
  cases found : s.descs.lookup node.name <;> simp [recordStep, empty, found, lookup_filter_ne]

/-- The second compilation keeps a struct while the first does nothing. -/
theorem KeepsAgree.keepSecond (keeps : KeepsAgree c₂ acc₁ acc₂)
    (empty : (transitiveMissing acc₂.2.2 [node.name] {}).isEmpty) :
    KeepsAgree c₂ acc₁ (recordStep acc₂ node) := by
  obtain ⟨records₂, u₂, t₂⟩ := acc₂
  cases found : t₂.descs.lookup node.name with
  | none => simpa [recordStep, empty, found] using keeps
  | some d₂ =>
    have named := keeps.pending node.name d₂ found
    simp only [recordStep, empty, found, if_true]
    refine ⟨⟨⟨keeps.unsupported, { keeps.states with descs := False.elim }⟩, ?_⟩, ?_, ?_⟩
    · intro n member
      simp only [List.map_append, List.mem_append]
      exact Or.inl (keeps.kept n member)
    · intro k d member
      by_cases here : k = node.name
      · simp [lookup_filter_ne, here] at member
      · simp only [lookup_filter_ne, here, if_false] at member
        exact keeps.pending k d member
    · intro k d member gone
      by_cases here : k = node.name
      · subst here
        rw [Option.mem_def.mp member] at named
        simp_all
      · simp only [lookup_filter_ne, here, if_false] at gone
        simpa using Or.inl (keeps.dropped k d member gone)

/-- The first compilation keeps a struct the second no longer holds. -/
theorem KeepsAgree.keepFirst (keeps : KeepsAgree c₂ acc₁ acc₂)
    (empty : (transitiveMissing acc₁.2.2 [node.name] {}).isEmpty)
    (gone : acc₂.2.2.descs.lookup node.name = none) :
    KeepsAgree c₂ (recordStep acc₁ node) acc₂ := by
  obtain ⟨records₁, u₁, t₁⟩ := acc₁
  cases found : t₁.descs.lookup node.name with
  | none => simpa [recordStep, empty, found] using keeps
  | some d₁ =>
    have keptBefore := keeps.dropped node.name d₁ found gone
    simp only [recordStep, empty, found, if_true]
    refine ⟨⟨⟨keeps.unsupported, { keeps.states with descs := False.elim }⟩, ?_⟩, ?_, ?_⟩
    · intro n member
      simp only [List.map_append, List.map_cons, List.map_nil, List.mem_append,
        List.mem_singleton] at member
      rcases member with earlier | rfl
      · exact keeps.kept n earlier
      · exact keptBefore
    · intro k d member
      by_cases here : k = node.name
      · subst here
        simp [gone] at member
      · simpa [lookup_filter_ne, here] using keeps.pending k d member
    · intro k d member
      by_cases here : k = node.name
      · simp [lookup_filter_ne, here] at member
      · simp only [lookup_filter_ne, here, if_false] at member
        exact keeps.dropped k d member

/-- Both compilations miss a constant of a struct and leave it unsupported. -/
theorem KeepsAgree.reportBoth (keeps : KeepsAgree c₂ acc₁ acc₂)
    (full : ¬ (transitiveMissing acc₂.2.2 [node.name] {}).isEmpty) :
    KeepsAgree c₂ (recordStep acc₁ node) (recordStep acc₂ node) := by
  have missing := keeps.missing node.name
  have full₁ : (transitiveMissing acc₁.2.2 [node.name] {}).isEmpty = false := by
    cases empty : (transitiveMissing acc₁.2.2 [node.name] {}).isEmpty
    · rfl
    · exact absurd (by rw [missing, List.isEmpty_iff.mp empty]; rfl) full
  obtain ⟨records₁, u₁, t₁⟩ := acc₁
  obtain ⟨records₂, u₂, t₂⟩ := acc₂
  simp only [Bool.not_eq_true] at full full₁
  simp only [recordStep, full, full₁, Bool.false_eq_true, if_false]
  refine ⟨⟨⟨?_, keeps.states⟩, keeps.kept⟩, keeps.pending, keeps.dropped⟩
  have unsupported : u₂ = u₁.filter c₂.lacks := keeps.unsupported
  rw [missing, unsupported, filter_foldl_addName]

/-- Only the first compilation misses a constant of a struct. -/
theorem KeepsAgree.reportFirst (keeps : KeepsAgree c₂ acc₁ acc₂)
    (full : ¬ (transitiveMissing acc₁.2.2 [node.name] {}).isEmpty)
    (bound : ((transitiveMissing acc₁.2.2 [node.name] {}).filter c₂.lacks).isEmpty) :
    KeepsAgree c₂ (recordStep acc₁ node) acc₂ := by
  obtain ⟨records₁, u₁, t₁⟩ := acc₁
  simp only [Bool.not_eq_true] at full
  simp only [recordStep, full, Bool.false_eq_true, if_false]
  refine ⟨⟨⟨?_, keeps.states⟩, keeps.kept⟩, keeps.pending, keeps.dropped⟩
  have unsupported : acc₂.2.1 = u₁.filter c₂.lacks := keeps.unsupported
  rw [unsupported, filter_foldl_addName, List.isEmpty_iff.mp bound]
  rfl

theorem recordStep_agrees (keeps : KeepsAgree c₂ acc₁ acc₂) (node : Description.Record) :
    KeepsAgree c₂ (recordStep acc₁ node) (recordStep acc₂ node) := by
  by_cases empty₂ : (transitiveMissing acc₂.2.2 [node.name] {}).isEmpty
  · have second := keeps.keepSecond empty₂
    by_cases empty₁ : (transitiveMissing acc₁.2.2 [node.name] {}).isEmpty
    · exact second.keepFirst empty₁ (recordStep_gone empty₂)
    · rw [keeps.missing] at empty₂
      exact second.reportFirst empty₁ empty₂
  · exact keeps.reportBoth empty₂

theorem keepRecords_agrees (nodes : List Description.Record) (keeps : KeepsAgree c₂ acc₁ acc₂) :
    KeepsAgree c₂ (nodes.foldl recordStep acc₁) (nodes.foldl recordStep acc₂) := by
  induction nodes generalizing acc₁ acc₂ with
  | nil => exact keeps
  | cons node rest ih => exact ih (recordStep_agrees keeps node)

end Kept

section Resources

variable {env : Env} (wider : ∀ n, env.consts.contains n → c₂.contains n)
include wider

theorem resourceValue_agrees {acc₁ acc₂ : List UInt64 × List String × State}
    (acc : Accumulated c₂ D acc₁ acc₂) (value : Position × String) :
    Accumulated c₂ D (resourceValue env acc₁ value)
      (resourceValue { env with consts := c₂ } acc₂ value) := by
  obtain ⟨vs₁, u₁, t₁⟩ := acc₁
  obtain ⟨vs₂, u₂, t₂⟩ := acc₂
  obtain ⟨p, v⟩ := value
  obtain ⟨unsupported, h⟩ := acc
  simp only at unsupported h
  subst unsupported
  cases literal : Literal.parse v with
  | some n => exact ⟨by simp [resourceValue, literal], by simpa [resourceValue, literal] using h⟩
  | none =>
  cases first : env.consts.get? v with
  | some n =>
    obtain ⟨w, second⟩ : ∃ w, c₂.get? v = some w :=
      Option.isSome_iff_exists.mp (wider v (by simp [ConstTable.contains, first]))
    exact ⟨by simp [resourceValue, literal, first, second], by
      simpa [resourceValue, literal, first, second] using h⟩
  | none =>
  cases second : c₂.get? v with
  | some w =>
    -- only the first compilation reports a bad value or leaves the name unsupported
    have bound : c₂.lacks v = false := by simp [ConstTable.lacks, ConstTable.contains, second]
    simp only [resourceValue, literal, first, second]
    split
    · exact ⟨rfl, h.reportFirst p _⟩
    · exact ⟨by simp [filter_addName, bound], h⟩
  | none =>
    have unbound : c₂.lacks v = true := by simp [ConstTable.lacks, ConstTable.contains, second]
    simp only [resourceValue, literal, first, second]
    split
    · exact ⟨rfl, h.report p _⟩
    · exact ⟨by simp [filter_addName, unbound], h⟩

theorem resourceValues_agrees (values : List (Position × String))
    {acc₁ acc₂ : List UInt64 × List String × State} (acc : Accumulated c₂ D acc₁ acc₂) :
    Accumulated c₂ D (values.foldl (resourceValue env) acc₁)
      (values.foldl (resourceValue { env with consts := c₂ }) acc₂) := by
  induction values generalizing acc₁ acc₂ with
  | nil => exact acc
  | cons value rest ih => exact ih (resourceValue_agrees wider acc value)

theorem compileResource_agrees (h : Agrees c₂ D s₁ s₂) (node : Description.Resource) :
    (compileResource { env with consts := c₂ } node s₂).1.2 =
        (compileResource env node s₁).1.2.filter c₂.lacks ∧
      Agrees c₂ D (compileResource env node s₁).2 (compileResource { env with consts := c₂ } node s₂).2 := by
  obtain ⟨same, agrees⟩ : _ ∧ Agrees c₂ D (intType env node.base node.position s₁).2 _ :=
    intType_agrees h node.base node.position
  rcases i₁ : intType env node.base node.position s₁ with ⟨o₁, t₁⟩
  rcases i₂ : intType { env with consts := c₂ } node.base node.position s₂ with ⟨o₂, t₂⟩
  rw [i₁, i₂] at same agrees
  simp only at same agrees
  subst same
  cases o₂ with
  | none => simpa [compileResource, i₁, i₂] using agrees
  | some base =>
    -- both bind the resource's type, then read its values alike
    have typed : Agrees c₂ D
        { t₁ with resourceTypes := bind t₁.resourceTypes node.name (.resource node.name base.size) }
        { t₂ with resourceTypes := bind t₂.resourceTypes node.name (.resource node.name base.size) } :=
      { agrees with resourceTypes := by rw [agrees.resourceTypes] }
    have start : Accumulated c₂ D (([] : List UInt64), ([] : List String), _) ([], [], _) :=
      ⟨rfl, typed⟩
    obtain ⟨unsupported, states⟩ := resourceValues_agrees wider node.values start
    exact ⟨by simpa [compileResource, i₁, i₂] using unsupported, by
      simpa [compileResource, i₁, i₂] using states⟩

theorem compileResources_agrees (nodes : List Description.Resource) (h : Agrees c₂ D s₁ s₂) :
    Accumulated c₂ D (compileResources env nodes s₁)
      (compileResources { env with consts := c₂ } nodes s₂) := by
  unfold compileResources
  generalize ([] : List Resource) = start
  suffices all : ∀ {acc₁ acc₂ : List Resource × List String × State}, Accumulated c₂ D acc₁ acc₂ →
      Accumulated c₂ D (nodes.foldl (resourceStep env) acc₁)
        (nodes.foldl (resourceStep { env with consts := c₂ }) acc₂) from all ⟨rfl, h⟩
  induction nodes with
  | nil => exact id
  | cons node rest ih =>
    rintro ⟨r₁, u₁, t₁⟩ ⟨r₂, u₂, t₂⟩ ⟨unsupported, h⟩
    dsimp only at unsupported h
    obtain ⟨missing, states⟩ := compileResource_agrees wider h node
    apply ih
    refine ⟨?_, states⟩
    show (compileResource _ node t₂).1.2.foldl addName u₂ =
      ((compileResource env node t₁).1.2.foldl addName u₁).filter c₂.lacks
    rw [missing, unsupported, filter_foldl_addName]

end Resources

section Syscalls

variable {env : Env} (wider : ∀ n, env.consts.contains n → c₂.contains n)
include wider

theorem returnType_agrees {layout₁ layout₂ : Layout} (layouts : LayoutsAgree c₂ layout₁ layout₂)
    (h : Agrees c₂ D s₁ s₂) (node : Description.Syscall) (r : Refs) :
    ResultsAgree c₂ D (Prod.map (Option.map TypeDesc.shape) id) (returnType env layout₁ node r s₁)
      (returnType { env with consts := c₂ } layout₂ node (r.without c₂) s₂) := by
  unfold returnType
  rcases node.ret with _ | ⟨p, e⟩
  · exact ⟨rfl, rfl, h⟩
  have resolved := resolve_agrees wider layouts e p r s₁ h
  rcases e₁ : resolve env layout₁ e p r s₁ with ⟨o₁, r₁, t₁⟩
  rcases e₂ : resolve { env with consts := c₂ } layout₂ e p (r.without c₂) s₂ with ⟨o₂, r₂, t₂⟩
  rw [e₁, e₂] at resolved
  simp only [e₁, e₂]
  obtain ⟨value, refs, states⟩ := resolved
  simp only at value refs states
  cases o₁ <;> cases o₂ <;> simp at value
  · exact ⟨rfl, refs, states⟩
  -- a type and its shape are integers, resources or neither alike
  rename_i t₁ t₂
  cases t₁ <;> cases t₂ <;> simp [TypeDesc.shape] at value
  all_goals first
    | exact ⟨by simp [value], refs, states⟩
    | exact ⟨rfl, refs, states.report p _⟩

theorem syscallNumber_without (callName : String) (r : Refs) :
    (syscallNumber { env with consts := c₂ } callName (r.without c₂)).2 =
      (syscallNumber env callName r).2.without c₂ := by
  unfold syscallNumber
  split_ifs
  · rfl
  · exact lookup_without wider _ r
  · rfl

theorem compileSyscall_agrees (fuel : Nat) (h : Agrees c₂ D s₁ s₂) (node : Description.Syscall) :
    (∀ call ∈ (compileSyscall env fuel node s₁).1.1,
      ∃ other ∈ (compileSyscall { env with consts := c₂ } fuel node s₂).1.1, other.name = call.name) ∧
    (compileSyscall { env with consts := c₂ } fuel node s₂).1.2 =
      (compileSyscall env fuel node s₁).1.2.filter c₂.lacks ∧
    Agrees c₂ D (compileSyscall env fuel node s₁).2 (compileSyscall { env with consts := c₂ } fuel node s₂).2 := by
  have layouts : LayoutsAgree c₂ (recordLayout env fuel)
      (recordLayout { env with consts := c₂ } fuel) := recordLayout_agrees wider fuel
  -- the arguments, the return type and the number are read alike
  have fields := resolveFields_agrees wider layouts node.args {} s₁ h
  rcases f₁ : resolveFields env (recordLayout env fuel) node.args {} s₁ with ⟨⟨args₁, ok₁⟩, r₁, t₁⟩
  rcases f₂ : resolveFields { env with consts := c₂ } (recordLayout { env with consts := c₂ } fuel)
    node.args {} s₂ with ⟨⟨args₂, ok₂⟩, r₂, t₂⟩
  have nothing : ({} : Refs).without c₂ = {} := rfl
  rw [nothing, f₁, f₂] at fields
  obtain ⟨fieldsValue, fieldsRefs, fieldsStates⟩ := fields
  simp only [Prod.map, Prod.mk.injEq, id] at fieldsValue fieldsRefs fieldsStates
  subst fieldsRefs
  have ret := returnType_agrees wider layouts fieldsStates node r₁
  rcases g₁ : returnType env (recordLayout env fuel) node r₁ t₁ with ⟨⟨ret₁, retOk₁⟩, q₁, u₁⟩
  rcases g₂ : returnType { env with consts := c₂ } (recordLayout { env with consts := c₂ } fuel) node
    (r₁.without c₂) t₂ with ⟨⟨ret₂, retOk₂⟩, q₂, u₂⟩
  rw [g₁, g₂] at ret
  obtain ⟨retValue, retRefs, retStates⟩ := ret
  simp only [Prod.map, Prod.mk.injEq, id] at retValue retRefs retStates
  subst retRefs
  have number := syscallNumber_without wider node.callName q₁
  rcases n₁ : syscallNumber env node.callName q₁ with ⟨nr₁, w₁⟩
  rcases n₂ : syscallNumber { env with consts := c₂ } node.callName (q₁.without c₂) with ⟨nr₂, w₂⟩
  rw [n₁, n₂] at number
  simp only at number
  subst number
  have missing := transitiveMissing_without retStates.recordRefs [] w₁
  rw [compileSyscall_eq f₁ g₁ n₁, compileSyscall_eq f₂ g₂ n₂]
  simp only [fieldsValue.2, retValue.2, missing]
  -- a call the first keeps misses nothing, so the second misses nothing either
  by_cases empty₁ : (transitiveMissing u₁ [] w₁).isEmpty
  · have empty₂ : ((transitiveMissing u₁ [] w₁).filter c₂.lacks).isEmpty := by
      rw [List.isEmpty_iff.mp empty₁]
      rfl
    simp only [empty₁, empty₂, if_true]
    refine ⟨fun call member => ?_, rfl, retStates⟩
    split_ifs at member ⊢ with ok
    · simp at member
      subst member
      exact ⟨_, rfl, rfl⟩
    · simp at member
  · simp only [empty₁, Bool.false_eq_true, if_false]
    by_cases empty₂ : ((transitiveMissing u₁ [] w₁).filter c₂.lacks).isEmpty
    · simp only [empty₂, if_true]
      exact ⟨by simp, (List.isEmpty_iff.mp empty₂).symm, retStates⟩
    · simp only [empty₂, Bool.false_eq_true, if_false]
      exact ⟨by simp, trivial, retStates⟩

theorem compileSyscalls_agrees (fuel : Nat) (nodes : List Description.Syscall)
    {acc₁ acc₂ : List Syscall × List String × State} (keeps : Keeps c₂ Syscall.name acc₁ acc₂) :
    Keeps c₂ Syscall.name (nodes.foldl (syscallStep env fuel) acc₁)
      (nodes.foldl (syscallStep { env with consts := c₂ } fuel) acc₂) := by
  induction nodes generalizing acc₁ acc₂ with
  | nil => exact keeps
  | cons node rest ih =>
    obtain ⟨calls₁, u₁, t₁⟩ := acc₁
    obtain ⟨calls₂, u₂, t₂⟩ := acc₂
    obtain ⟨⟨unsupported, h⟩, kept⟩ := keeps
    dsimp only at unsupported h kept
    obtain ⟨keptCall, missing, states⟩ := compileSyscall_agrees wider fuel h node
    apply ih
    refine ⟨⟨?_, states⟩, fun n member => ?_⟩
    · show (compileSyscall _ fuel node t₂).1.2.foldl addName u₂ =
        ((compileSyscall env fuel node t₁).1.2.foldl addName u₁).filter c₂.lacks
      rw [missing, unsupported, filter_foldl_addName]
    · simp only [syscallStep, List.map_append, List.mem_append] at member ⊢
      rcases member with earlier | now
      · exact Or.inl (kept n earlier)
      · obtain ⟨call, member, rfl⟩ := List.mem_map.mp now
        obtain ⟨other, found, named⟩ := keptCall call (by simpa using member)
        exact Or.inr (List.mem_map.mpr ⟨other, by simpa using found, named⟩)

/-- What a program compiled with a table `c₂` binding more constants keeps, against one compiled
with fewer: every syscall and struct of the first, and unsupported exactly the names the first
leaves unsupported that `c₂` still lacks. -/
structure Widened (c₂ : ConstTable) (p₁ p₂ : Program) : Prop where
  syscalls : ∀ n ∈ p₁.syscalls.map (·.name), n ∈ p₂.syscalls.map (·.name)
  records : ∀ n ∈ p₁.records.map (·.name), n ∈ p₂.records.map (·.name)
  unsupported : ∀ n, n ∈ p₂.unsupported ↔ n ∈ p₁.unsupported ∧ c₂.lacks n

theorem compileAll_agrees :
    Widened c₂ (compileAll env).1 (compileAll { env with consts := c₂ }).1 ∧
      (compileAll { env with consts := c₂ }).2.diagnostics.Sublist (compileAll env).2.diagnostics := by
  -- resources, then structs laid out, alike
  have phase₁ := compileResources_agrees wider env.description.resources
    (Agrees.start : Agrees c₂ True {} {})
  rcases e₁ : compileResources env env.description.resources {} with ⟨res₁, u₁, t₁⟩
  rcases e₂ : compileResources { env with consts := c₂ } env.description.resources {} with
    ⟨res₂, u₂, t₂⟩
  rw [e₁, e₂] at phase₁
  obtain ⟨unsupported₁, states₁⟩ := phase₁
  dsimp only at unsupported₁ states₁
  have phase₂ := layOutRecords_agrees wider env.description.records.length
    env.description.records states₁
  -- the second keeps every struct the first keeps
  have phase₃ := keepRecords_agrees env.description.records (KeepsAgree.start phase₂ unsupported₁)
  rcases k₁ : env.description.records.foldl recordStep
    ([], u₁, layOutRecords env env.description.records.length env.description.records t₁) with
    ⟨records₁, v₁, w₁⟩
  rcases k₂ : env.description.records.foldl recordStep
    ([], u₂, layOutRecords { env with consts := c₂ } env.description.records.length
      env.description.records t₂) with ⟨records₂, v₂, w₂⟩
  rw [k₁, k₂] at phase₃
  -- and every syscall the first keeps
  have start : Keeps c₂ Syscall.name (([] : List Syscall), v₁, w₁) ([], v₂, w₂) :=
    ⟨⟨phase₃.unsupported, phase₃.states⟩, by simp⟩
  have phase₄ := compileSyscalls_agrees wider env.description.records.length
    env.description.syscalls start
  rcases m₁ : env.description.syscalls.foldl (syscallStep env env.description.records.length)
    ([], v₁, w₁) with ⟨calls₁, x₁, y₁⟩
  rcases m₂ : env.description.syscalls.foldl
    (syscallStep { env with consts := c₂ } env.description.records.length) ([], v₂, w₂) with
    ⟨calls₂, x₂, y₂⟩
  rw [m₁, m₂] at phase₄
  obtain ⟨⟨unsupported₄, states₄⟩, kept₄⟩ := phase₄
  dsimp only at unsupported₄ states₄ kept₄
  simp only [compileAll, keepRecords, compileSyscalls, e₁, e₂, k₁, k₂, m₁, m₂]
  refine ⟨⟨fun n member => ?_, phase₃.kept, fun n => ?_⟩, states₄.diagnostics⟩
  · rw [(numberSyscalls_names _).mem_iff] at member ⊢
    exact kept₄ n member
  · rw [mem_sortedNames, mem_sortedNames, unsupported₄, List.mem_filter]

end Syscalls

end Compile

open Compile

end SyscallTables
