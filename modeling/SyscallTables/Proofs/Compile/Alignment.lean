import SyscallTables.Proofs.Program.CLayout
import SyscallTables.Proofs.Compile.Recursion

namespace SyscallTables.Compile

open Description

/-! Layouts that agree. For a target whose pointers are 4 or 8 bytes wide, every type the
compiler hands out has alignments 1, 2, 4 or 8, and every struct it embeds is laid out with the
size and alignment the type carries. The compiler's state owes the same: a struct's layout, once
bound, stays bound; no struct is laid out while its own fields are resolved; and the description
kept for a struct carries its layout, follows the C rules and has fields that fit. So when a
program compiles, each struct in it follows the C rules, and every struct embedded anywhere
carries the layout of the struct of its name, in whatever order the structs are declared or
first used. -/

variable {env : Env} {s s' s₁ s₂ : State} {name : String}

/-- A type fits a table of layouts when every alignment in it is 1, 2, 4 or 8 and every struct
it embeds is one of `names`, laid out with the size and alignment the type carries. -/
structure TypeFits (env : Env) (layouts : List (String × Option (Nat × Nat))) (names : List String)
    (t : TypeDesc) : Prop where
  aligned : ∀ u ∈ t.parts, IsAlign u.align
  embedded : ∀ n size align, TypeDesc.record n size align ∈ t.parts →
    layouts.lookup n = some (some (size, align)) ∧ n ∈ names ∧ n ∈ env.description.recordNames

/-- Every struct bound keeps its binding. -/
def KeepsLayouts (s s' : State) : Prop :=
  ∀ n v, s.layouts.lookup n = some v → s'.layouts.lookup n = some v

theorem KeepsLayouts.refl (s : State) : KeepsLayouts s s := fun _ _ => id

theorem KeepsLayouts.trans (first : KeepsLayouts s s₁) (second : KeepsLayouts s₁ s₂) :
    KeepsLayouts s s₂ :=
  fun n v bound => second n v (first n v bound)

theorem KeepsLayouts.bind (keeps : KeepsLayouts s s₁) (fresh : s.layouts.lookup name = none)
    (v : Option (Nat × Nat)) (layouts : s₂.layouts = Compile.bind s₁.layouts name v) :
    KeepsLayouts s s₂ := by
  intro n v' bound
  have other : n ≠ name := by
    rintro rfl
    rw [fresh] at bound
    cases bound
  rw [layouts, lookup_bind, if_neg other]
  exact keeps n v' bound

namespace TypeFits

variable {layouts : List (String × Option (Nat × Nat))} {names : List String} {t : TypeDesc}

theorem mono (fits : TypeFits env s.layouts names t) (keeps : KeepsLayouts s s')
    {names' : List String} (more : names ⊆ names') : TypeFits env s'.layouts names' t where
  aligned := fits.aligned
  embedded n size align embedded := by
    obtain ⟨laid, named, record⟩ := fits.embedded n size align embedded
    exact ⟨keeps n _ laid, more named, record⟩

/-- A struct that is not laid out can be bound anew without disturbing what fits. -/
theorem bind (fits : TypeFits env layouts names t) {name : String}
    (unlaid : ∀ l, layouts.lookup name ≠ some (some l)) (v : Option (Nat × Nat)) :
    TypeFits env (Compile.bind layouts name v) names t where
  aligned := fits.aligned
  embedded n size align embedded := by
    obtain ⟨laid, named, record⟩ := fits.embedded n size align embedded
    have other : n ≠ name := by
      rintro rfl
      exact unlaid _ laid
    rw [lookup_bind, if_neg other]
    exact ⟨laid, named, record⟩

/-- Where every struct is bound, a type that fits layouts grown from there fits them already. -/
theorem settle (fits : TypeFits env s'.layouts names t) (keeps : KeepsLayouts s s')
    (bound : ∀ n ∈ env.description.recordNames, (s.layouts.lookup n).isSome) :
    TypeFits env s.layouts names t where
  aligned := fits.aligned
  embedded n size align embedded := by
    obtain ⟨laid, named, record⟩ := fits.embedded n size align embedded
    obtain ⟨v, boundThen⟩ := Option.isSome_iff_exists.mp (bound n record)
    rw [keeps n v boundThen] at laid
    exact ⟨laid ▸ boundThen, named, record⟩

theorem scalar (single : t.parts = [t]) (notRecord : ∀ n size align, t ≠ .record n size align)
    (aligned : IsAlign t.align) : TypeFits env layouts names t where
  aligned u member := by
    rw [single, List.mem_singleton] at member
    exact member ▸ aligned
  embedded n size align member := by
    rw [single, List.mem_singleton] at member
    exact absurd member.symm (notRecord n size align)

/-- A scalar is aligned at its size, so one sized 1, 2, 4 or 8 fits anything. -/
theorem ofSize (single : t.parts = [t]) (notRecord : ∀ n size align, t ≠ .record n size align)
    (sized : IsAlign t.size) : TypeFits env layouts names t := by
  have same : t.align = t.size := by
    cases t with
    | record n size align => exact absurd rfl (notRecord n size align)
    | _ => exact sized.max_one
  exact .scalar single notRecord (same ▸ sized)

theorem ptr (fits : TypeFits env layouts names t) {size : Nat} (pointer : IsAlign size) :
    TypeFits env layouts names (.ptr t size) where
  aligned u member := by
    rcases List.mem_cons.mp member with rfl | inner
    · simpa [TypeDesc.align, TypeDesc.size, pointer.max_one] using pointer
    · exact fits.aligned u inner
  embedded n size align member := by
    rcases List.mem_cons.mp member with same | inner
    · cases same
    · exact fits.embedded n size align inner

end TypeFits

/-- What the description of a struct laid out under the name `k` owes: it carries that name and
its layout, follows the C rules, and its fields fit, embedding only structs its declaration
names. -/
structure DescFits (env : Env) (layouts : List (String × Option (Nat × Nat))) (k : String)
    (desc : RecordDesc) : Prop where
  name : desc.name = k
  laidOut : layouts.lookup k = some (some (desc.size, desc.align))
  rules : desc.FollowsC
  fields : ∃ node, findRecord env k = some node ∧
    ∀ f ∈ desc.fields, TypeFits env layouts node.typeNames f.type

theorem DescFits.mono {k : String} {desc : RecordDesc} (fits : DescFits env s.layouts k desc)
    (keeps : KeepsLayouts s s') : DescFits env s'.layouts k desc where
  name := fits.name
  laidOut := keeps k _ fits.laidOut
  rules := fits.rules
  fields := by
    obtain ⟨node, found, fieldsFit⟩ := fits.fields
    exact ⟨node, found, fun f member => (fieldsFit f member).mono keeps (List.Subset.refl _)⟩

theorem DescFits.bind {layouts : List (String × Option (Nat × Nat))} {k : String}
    {desc : RecordDesc} (fits : DescFits env layouts k desc) {name : String}
    (unlaid : ∀ l, layouts.lookup name ≠ some (some l)) (v : Option (Nat × Nat)) :
    DescFits env (Compile.bind layouts name v) k desc where
  name := fits.name
  laidOut := by
    have other : k ≠ name := by
      rintro rfl
      exact unlaid _ fits.laidOut
    rw [lookup_bind, if_neg other]
    exact fits.laidOut
  rules := fits.rules
  fields := by
    obtain ⟨node, found, fieldsFit⟩ := fits.fields
    exact ⟨node, found, fun f member => (fieldsFit f member).bind unlaid v⟩

/-- What the compiler's state owes the types it hands out: resource types are scalars aligned at
1, 2, 4 or 8 and so are the structs laid out, no struct in progress is laid out yet, and every
description kept fits. -/
structure Fitted (env : Env) (s : State) : Prop where
  resources : ∀ n t, s.resourceTypes.lookup n = some t →
    ∃ m size, t = .resource m size ∧ IsAlign size
  aligned : ∀ n l, s.layouts.lookup n = some (some l) → IsAlign l.2
  idle : ∀ n ∈ s.inProgress, ∀ l, s.layouts.lookup n ≠ some (some l)
  descs : ∀ k desc, s.descs.lookup k = some desc → DescFits env s.layouts k desc

theorem Fitted.report (fitted : Fitted env s) (p : Position) (m : String) :
    Fitted env (s.report p m) :=
  ⟨fitted.resources, fitted.aligned, fitted.idle, fitted.descs⟩

/-- Binding a struct that is not laid out, with the structs in progress among those before,
keeps a state fitted when a struct left in progress is not laid out by the binding. -/
theorem Fitted.close (fitted : Fitted env s) (unlaid : ∀ l, s.layouts.lookup name ≠ some (some l))
    (v : Option (Nat × Nat)) (aligned : ∀ l, v = some l → IsAlign l.2) (inProgress : List String)
    (progress : ∀ n ∈ inProgress, n ∈ s.inProgress ∧ (n = name → v = none))
    (recordRefs : List (String × Refs)) :
    Fitted env { s with inProgress, recordRefs, layouts := bind s.layouts name v } where
  resources := fitted.resources
  aligned n l laid := by
    by_cases here : n = name
    · subst here
      rw [lookup_bind, if_pos rfl, Option.some.injEq] at laid
      exact aligned l laid
    · rw [lookup_bind, if_neg here] at laid
      exact fitted.aligned n l laid
  idle n member l := by
    obtain ⟨before, closing⟩ := progress n member
    by_cases here : n = name
    · subst here
      simp [closing rfl]
    · rw [lookup_bind, if_neg here]
      exact fitted.idle n before l
  descs k desc found := (fitted.descs k desc found).bind unlaid v

theorem Fitted.describe (fitted : Fitted env s) {desc : RecordDesc}
    (fits : DescFits env s.layouts name desc) :
    Fitted env { s with descs := bind s.descs name desc } where
  resources := fitted.resources
  aligned := fitted.aligned
  idle := fitted.idle
  descs k desc' found := by
    by_cases here : k = name
    · subst here
      rw [lookup_bind, if_pos rfl, Option.some.injEq] at found
      exact found ▸ fits
    · rw [lookup_bind, if_neg here] at found
      exact fitted.descs k desc' found

/-- A way of laying out structs that keeps states fitted and bindings kept, and binds every
struct it lays out to the layout it returns. -/
def LayoutFits (env : Env) (layout : Layout) : Prop :=
  ∀ n s, Fitted env s → Fitted env (layout n s).2 ∧ KeepsLayouts s (layout n s).2 ∧
    ∀ l, (layout n s).1 = some l → (layout n s).2.layouts.lookup n = some (some l)

theorem Fitted.report_keeps {s₀ : State} (held : Fitted env s ∧ KeepsLayouts s₀ s) (p : Position)
    (m : String) : Fitted env (s.report p m) ∧ KeepsLayouts s₀ (s.report p m) :=
  ⟨held.1.report p m, held.2⟩

theorem LayoutFits.keep {layout : Layout} (spec : LayoutFits env layout) {s₀ : State} (n : String)
    (held : Fitted env s ∧ KeepsLayouts s₀ s) :
    Fitted env (layout n s).2 ∧ KeepsLayouts s₀ (layout n s).2 :=
  ⟨(spec n s held.1).1, held.2.trans (spec n s held.1).2.1⟩

section Resolving

variable {layout : Layout} {p : Position} {r : Refs}

theorem intSize_aligned {ptrSize : Nat} (pointer : IsAlign ptrSize) {e : TypeExpr} {size : Nat}
    (sized : intSize ptrSize e = some size) : IsAlign size := by
  unfold intSize at sized
  split at sized <;> cases sized
  all_goals first | decide | exact pointer

theorem intType_fits {e : TypeExpr} (pointer : IsAlign env.target.ptrSize) {t : TypeDesc}
    (typed : (intType env e p s).1 = some t) : ∃ size, t = .int size ∧ IsAlign size := by
  unfold intType at typed
  split at typed
  · rename_i size sized
    cases typed
    exact ⟨size, rfl, intSize_aligned pointer sized⟩
  · cases typed

theorem resolveConst_fits {args : List TypeExpr} (pointer : IsAlign env.target.ptrSize)
    {t : TypeDesc} (resolved : (resolveConst env args p r s).1 = some t) :
    ∃ n value size, t = .const n value size ∧ IsAlign size := by
  revert resolved
  fun_cases resolveConst env args p r s with
  | case4 first v r₁ s₁ valued size tail t' s₂ typed =>
    intro resolved
    cases resolved
    obtain ⟨width, rfl, aligned⟩ :=
      intType_fits pointer (show (intType env size p s₁).1 = some t' by simp [typed])
    exact ⟨_, _, width, rfl, aligned⟩
  | case6 => exact fun resolved => by cases resolved; exact ⟨_, _, _, rfl, pointer⟩
  | _ => simp

theorem resolveFlags_fits {args : List TypeExpr} {t : TypeDesc}
    (resolved : (resolveFlags env args p r s).1 = some t) :
    ∃ values, t = .flags values env.target.ptrSize := by
  revert resolved
  fun_cases resolveFlags env args p r s with
  | case1 values r₁ s₁ valued => exact fun resolved => by cases resolved; exact ⟨values, rfl⟩
  | case2 => simp

variable (pointer : IsAlign env.target.ptrSize) (spec : LayoutFits env layout)

include spec in
theorem resolve_keeps (e : TypeExpr) (fitted : Fitted env s) :
    Fitted env (resolve env layout e p r s).2.2 ∧ KeepsLayouts s (resolve env layout e p r s).2.2 :=
  resolve_preserves (fun s' => Fitted env s' ∧ KeepsLayouts s s')
    (fun _ p m _ held => Fitted.report_keeps held p m) (fun _ => True) (fun n _ _ => spec.keep n) e
    (fun _ _ => trivial) ⟨fitted, KeepsLayouts.refl s⟩

include pointer spec in
theorem resolveName_fits (n : String) (fitted : Fitted env s) {t : TypeDesc}
    (resolved : (resolveName env layout n p r s).1 = some t) :
    TypeFits env (resolveName env layout n p r s).2.2.layouts [n] t := by
  revert resolved
  fun_cases resolveName env layout n p r s with
  | case1 integer t' s₁ typed =>
    intro resolved
    obtain ⟨size, rfl, aligned⟩ := intType_fits pointer
      (show (intType env (.ident n) p s).1 = some t by simpa [typed] using resolved)
    exact .ofSize (by simp) (by simp) aligned
  | case3 _ _ resource =>
    intro resolved
    obtain ⟨m, size, rfl, aligned⟩ := fitted.resources n t resolved
    exact .ofSize (by simp) (by simp) aligned
  | case4 _ _ _ found size align s₁ laid =>
    intro resolved
    cases resolved
    -- the struct is bound to the layout the type carries
    have step := spec n s fitted
    rw [laid] at step
    obtain ⟨fittedAfter, -, bound⟩ := step
    have boundHere : s₁.layouts.lookup n = some (some (size, align)) := bound _ rfl
    refine ⟨fun u member => ?_, fun n' size' align' member => ?_⟩
    · rw [TypeDesc.parts_record, List.mem_singleton] at member
      subst member
      exact fittedAfter.aligned n _ boundHere
    · rw [TypeDesc.parts_record, List.mem_singleton] at member
      cases member
      exact ⟨boundHere, List.mem_singleton_self _, findRecord_isSome_iff.mp found⟩
  | _ => simp

include pointer spec in
theorem resolve_fits (e : TypeExpr) (fitted : Fitted env s) {t : TypeDesc}
    (resolved : (resolve env layout e p r s).1 = some t) :
    TypeFits env (resolve env layout e p r s).2.2.layouts e.typeNames t := by
  revert fitted t
  fun_induction resolve env layout e p r s with
  | case1 name p r s =>
    intro fitted t resolved
    simpa using resolveName_fits pointer spec name fitted resolved
  | case2 args p r s =>
    intro fitted t resolved
    obtain ⟨n, value, size, rfl, aligned⟩ := resolveConst_fits pointer resolved
    exact .ofSize (by simp) (by simp) aligned
  | case3 args p r s =>
    intro fitted t resolved
    obtain ⟨values, rfl⟩ := resolveFlags_fits resolved
    exact .ofSize (by simp) (by simp) pointer
  | case4 p r s _ n found =>
    intro fitted t resolved
    cases resolved
    -- a struct behind a pointer is only named
    exact TypeFits.ptr
      (.scalar (by simp) (by simp) (by simp [TypeDesc.align, TypeDesc.size]; decide)) pointer
  | case5 p r₀ s₀ _ n _ pointee r s named =>
    intro fitted t resolved
    obtain ⟨u, pointed, rfl⟩ := Option.map_eq_some_iff.mp resolved
    have fits := resolveName_fits pointer spec n fitted
      (show (resolveName env layout n p r₀ s₀).1 = some u by simp [named, pointed])
    rw [named] at fits
    simpa using fits.ptr pointer
  | case6 p r₀ s₀ _ name args pointee r s inner _ _ ih =>
    intro fitted t resolved
    obtain ⟨u, pointed, rfl⟩ := Option.map_eq_some_iff.mp resolved
    have fits := ih fitted (show (resolve env layout _ p r₀ s₀).1 = some u by simp [inner, pointed])
    rw [inner] at fits
    simpa using fits.ptr pointer
  | case7 => simp
  | case8 => simp

include pointer spec in
/-- Resolving fields keeps the state fitted and every binding, and each field kept fits the
layouts it leaves, embedding only structs the fields name. -/
theorem resolveFields_fits (fields : List Description.Field) (fitted : Fitted env s) :
    Fitted env (resolveFields env layout fields r s).2.2 ∧
      KeepsLayouts s (resolveFields env layout fields r s).2.2 ∧
      ∀ f ∈ (resolveFields env layout fields r s).1.1,
        TypeFits env (resolveFields env layout fields r s).2.2.layouts
          (fields.flatMap (·.type.typeNames)) f.type := by
  revert fitted
  fun_induction resolveFields env layout fields r s with
  | case1 r s => exact fun fitted => ⟨fitted, KeepsLayouts.refl s, by simp⟩
  | case2 f rest r s r₁ s₁ fs ok r₂ s₂ later t resolved ih =>
    intro fitted
    have kept : Fitted env (resolve env layout f.type f.position r s).2.2 ∧
        KeepsLayouts s (resolve env layout f.type f.position r s).2.2 :=
      resolve_keeps spec f.type fitted
    have typed := resolve_fits pointer spec f.type fitted (p := f.position) (r := r)
      (show (resolve env layout f.type f.position r s).1 = some t by simp [resolved])
    rw [resolved] at kept typed
    obtain ⟨fittedRest, keepsRest, restFit⟩ := ih kept.1
    rw [later] at fittedRest keepsRest restFit
    refine ⟨fittedRest, kept.2.trans keepsRest, fun g member => ?_⟩
    rcases List.mem_cons.mp member with rfl | inRest
    · exact typed.mono keepsRest (List.subset_append_left _ _)
    · exact (restFit g inRest).mono (KeepsLayouts.refl _) (List.subset_append_right _ _)
  | case3 f rest r s r₁ s₁ fs ok r₂ s₂ later resolved ih =>
    intro fitted
    have kept : Fitted env (resolve env layout f.type f.position r s).2.2 ∧
        KeepsLayouts s (resolve env layout f.type f.position r s).2.2 :=
      resolve_keeps spec f.type fitted
    rw [resolved] at kept
    obtain ⟨fittedRest, keepsRest, restFit⟩ := ih kept.1
    rw [later] at fittedRest keepsRest restFit
    exact ⟨fittedRest, kept.2.trans keepsRest,
      fun g member => (restFit g member).mono (KeepsLayouts.refl _) (List.subset_append_right _ _)⟩

end Resolving

section Laying

theorem Fitted.open (fitted : Fitted env s) (fresh : s.layouts.lookup name = none) :
    Fitted env { s with inProgress := s.inProgress ++ [name] } where
  resources := fitted.resources
  aligned := fitted.aligned
  idle n member l := by
    rcases List.mem_append.mp member with before | opened
    · exact fitted.idle n before l
    · rw [List.mem_singleton.mp opened, fresh]
      simp
  descs := fitted.descs

/-- What resolving the fields of a struct in progress leaves: a fitted state that keeps every
binding, fields that fit it, the struct still in progress and not laid out. -/
theorem fields_fit {fewer : Nat} (pointer : IsAlign env.target.ptrSize)
    (inner : LayoutFits env (recordLayout env fewer)) (fitted : Fitted env s)
    (fresh : s.layouts.lookup name = none) {node : Record} {fields : List Field} {ok : Bool}
    {refs : Refs}
    (resolved : resolveFields env (recordLayout env fewer) node.fields {}
      { s with inProgress := s.inProgress ++ [name] } = ((fields, ok), refs, s₂)) :
    Fitted env s₂ ∧ KeepsLayouts s s₂ ∧
      (∀ f ∈ fields, TypeFits env s₂.layouts node.typeNames f.type) ∧ s₂.inProgress = s.inProgress ++ [name] ∧ ∀ l, s₂.layouts.lookup name ≠ some (some l) := by
  obtain ⟨fitted₂, keeps₂, fieldsFit⟩ :=
    resolveFields_fits pointer inner node.fields (fitted.open fresh) (r := {})
  rw [resolved] at fitted₂ keeps₂ fieldsFit
  have progress : s₂.inProgress = s.inProgress ++ [name] :=
    fields_preserve (fun s' => s'.inProgress = s.inProgress ++ [name]) (fun _ _ _ _ => id)
      (fun _ => True) (fun n s' _ same => (recordLayout_inProgress fewer n s').trans same)
      (fun _ _ _ _ => trivial) resolved rfl
  exact ⟨fitted₂, keeps₂, fieldsFit, progress, fitted₂.idle name (by simp [progress])⟩

/-- At every fuel, laying out a struct keeps states fitted and bindings kept, and binds the
struct to the layout returned. -/
theorem recordLayout_fits (pointer : IsAlign env.target.ptrSize) (fuel : Nat) :
    LayoutFits env (recordLayout env fuel) := by
  refine recordLayout_induction (fun _ layout => LayoutFits env layout)
    (fun fuel inner name s fitted => ?_) fuel
  have step : LayoutStep env fuel name s (recordLayout env fuel name s) :=
    recordLayout_step fuel name s
  generalize recordLayout env fuel name s = result at step ⊢
  cases step with
  | unknown => exact ⟨fitted, KeepsLayouts.refl s, fun _ none => by cases none⟩
  | known node found l laid =>
    exact ⟨fitted, KeepsLayouts.refl s, fun l' (same : l = some l') => by rw [laid, same]⟩
  | recursive node found fresh stuck =>
    have unlaid : ∀ l, s.layouts.lookup name ≠ some (some l) := by simp [fresh]
    exact ⟨(fitted.report _ _).close unlaid none (fun _ none => by cases none) s.inProgress
        (fun n member => ⟨member, fun _ => rfl⟩) s.recordRefs,
      (KeepsLayouts.refl s).bind fresh none rfl, fun _ none => by cases none⟩
  | failed node fewer more found fresh idle fields ok refs s₂ resolved failing =>
    obtain ⟨fitted₂, keeps₂, -, progress, unlaid⟩ :=
      fields_fit pointer (inner fewer more) fitted fresh resolved
    refine ⟨fitted₂.close unlaid none (fun _ none => by cases none) _ (fun n member => ?_) _,
      keeps₂.bind fresh none rfl, fun _ none => by cases none⟩
    simp only [List.mem_filter, bne_iff_ne, ne_eq] at member
    exact ⟨member.1, fun same => absurd same member.2⟩
  | laidOut node fewer more found fresh idle fields refs s₂ resolved passing size align sized =>
    obtain ⟨fitted₂, keeps₂, fieldsFit, progress, unlaid⟩ :=
      fields_fit pointer (inner fewer more) fitted fresh resolved
    -- the fields' alignments are 1, 2, 4 or 8, so the struct follows the C rules
    have aligned : ∀ f ∈ fields, IsAlign f.type.align := fun f member =>
      (fieldsFit f member).aligned f.type (TypeDesc.self_mem_parts _)
    obtain ⟨rules, alignOk⟩ := layoutOf_followsC name node.union fields aligned
    rw [sized] at rules alignOk
    have closed := fitted₂.close unlaid (some (size, align))
      (fun l same => by cases same; exact alignOk) (s₂.inProgress.filter (· != name))
      (fun n member => by
        simp only [List.mem_filter, bne_iff_ne, ne_eq] at member
        exact ⟨member.1, fun same => absurd same member.2⟩) (bind s₂.recordRefs name refs)
    have fits : DescFits env (bind s₂.layouts name (some (size, align))) name
        ⟨name, node.union, size, align, fields⟩ :=
      ⟨rfl, by simp, rules, node, found, fun f member => (fieldsFit f member).bind unlaid _⟩
    exact ⟨closed.describe fits, keeps₂.bind fresh _ rfl, fun l same => by cases same; simp⟩

end Laying

section Phases

variable (pointer : IsAlign env.target.ptrSize)

include pointer in
/-- A resource binds a scalar type aligned at 1, 2, 4 or 8, and its base is such an integer. -/
theorem compileResource_fits (node : Description.Resource) (fitted : Fitted env s) :
    Fitted env (compileResource env node s).2 ∧ ∀ res, (compileResource env node s).1.1 = some res →
      ∃ size, res.base = .int size ∧ IsAlign size := by
  have typed : Fitted env (intType env node.base node.position s).2 :=
    intType_preserves (Fitted env) (fun _ p m _ fitted => fitted.report p m) node.base fitted
  fun_cases compileResource env node s with
  | case1 s₁ untyped =>
    rw [untyped] at typed
    exact ⟨typed, fun _ none => by cases none⟩
  | case2 base s₁ baseTyped =>
    rename_i s₂ values unsupported s₃ folded
    rw [baseTyped] at typed
    obtain ⟨size, rfl, aligned⟩ := intType_fits pointer
      (show (intType env node.base node.position s).1 = some base by simp [baseTyped])
    have retyped : Fitted env s₂ := by
      refine ⟨fun n t bound => ?_, typed.aligned, typed.idle, typed.descs⟩
      by_cases here : n = node.name
      · subst here
        rw [lookup_bind, if_pos rfl, Option.some.injEq] at bound
        exact ⟨_, size, bound.symm, aligned⟩
      · simp only [s₂, lookup_bind, if_neg here] at bound
        exact typed.resources n t bound
    have valued : Fitted env (node.values.foldl (resourceValue env) ([], [], s₂)).2.2 :=
      resourceValues_preserves (Fitted env) (fun _ p m _ fitted => fitted.report p m) node.values
        ([], [], s₂) retyped
    rw [folded] at valued
    exact ⟨valued, fun res built => by cases built; exact ⟨size, rfl, aligned⟩⟩

include pointer in
theorem compileResources_fits (nodes : List Description.Resource)
    (acc : List Resource × List String × State) (fitted : Fitted env acc.2.2) :
    Fitted env (nodes.foldl (resourceStep env) acc).2.2 ∧
      ∀ res ∈ (nodes.foldl (resourceStep env) acc).1, res ∈ acc.1 ∨
        ∃ size, res.base = .int size ∧ IsAlign size := by
  induction nodes generalizing acc with
  | nil => exact ⟨fitted, fun res member => .inl member⟩
  | cons node rest ih =>
    obtain ⟨turn, based⟩ := compileResource_fits pointer node fitted
    obtain ⟨fittedRest, restBased⟩ := ih (resourceStep env acc node) turn
    refine ⟨fittedRest, fun res member => ?_⟩
    rcases restBased res member with earlier | typed
    · have step : res ∈ acc.1 ++ (compileResource env node acc.2.2).1.1.toList := earlier
      rcases List.mem_append.mp step with old | new
      · exact .inl old
      · exact .inr (based res (by simpa using new))
    · exact .inr typed

theorem Fitted.prune (fitted : Fitted env s) (descs : List (String × RecordDesc))
    (fewer : ∀ k desc, descs.lookup k = some desc → s.descs.lookup k = some desc) :
    Fitted env { s with descs } :=
  ⟨fitted.resources, fitted.aligned, fitted.idle,
    fun k desc found => fitted.descs k desc (fewer k desc found)⟩

theorem recordStep_from_descs (acc : List RecordDesc × List String × State)
    (node : Description.Record) :
    (∀ k desc, (recordStep acc node).2.2.descs.lookup k = some desc →
        acc.2.2.descs.lookup k = some desc) ∧
      ∀ desc ∈ (recordStep acc node).1, desc ∈ acc.1 ∨ ∃ k, acc.2.2.descs.lookup k = some desc := by
  obtain ⟨records, unsupported, s⟩ := acc
  by_cases empty : (transitiveMissing s [node.name] {}).isEmpty
  · cases found : s.descs.lookup node.name with
    | none =>
      simp [recordStep, empty, found]
      exact fun desc member => .inl member
    | some desc =>
      refine ⟨fun k desc' kept => ?_, fun desc' member => ?_⟩
      · simp only [recordStep, empty, found, if_true, lookup_filter_ne] at kept
        split at kept
        · cases kept
        · exact kept
      · simp only [recordStep, empty, found, if_true, List.mem_append,
          List.mem_singleton] at member
        rcases member with old | rfl
        · exact .inl old
        · exact .inr ⟨node.name, found⟩
  · simp [recordStep, empty]
    exact fun desc member => .inl member

theorem keepRecords_from_descs (nodes : List Description.Record)
    (acc : List RecordDesc × List String × State) :
    (∀ k desc, (nodes.foldl recordStep acc).2.2.descs.lookup k = some desc →
        acc.2.2.descs.lookup k = some desc) ∧
      ∀ desc ∈ (nodes.foldl recordStep acc).1, desc ∈ acc.1 ∨
        ∃ k, acc.2.2.descs.lookup k = some desc := by
  induction nodes generalizing acc with
  | nil => exact ⟨fun _ _ => id, fun desc member => .inl member⟩
  | cons node rest ih =>
    obtain ⟨fewer, kept⟩ := recordStep_from_descs acc node
    obtain ⟨fewerRest, keptRest⟩ := ih (recordStep acc node)
    refine ⟨fun k desc found => fewer k desc (fewerRest k desc found), fun desc member => ?_⟩
    rcases keptRest desc member with earlier | ⟨k, found⟩
    · exact kept desc earlier
    · exact .inr ⟨k, fewer k desc found⟩

include pointer in
theorem returnType_fits {layout : Layout} (spec : LayoutFits env layout) {r : Refs}
    (node : Description.Syscall) (fitted : Fitted env s) :
    Fitted env (returnType env layout node r s).2.2 ∧
      KeepsLayouts s (returnType env layout node r s).2.2 ∧
      ∀ t, (returnType env layout node r s).1.1 = some t →
        TypeFits env (returnType env layout node r s).2.2.layouts
          ((node.ret.map (·.2.typeNames)).getD []) t := by
  have kept : Fitted env (returnType env layout node r s).2.2 ∧
      KeepsLayouts s (returnType env layout node r s).2.2 :=
    returnType_preserves (fun s' => Fitted env s' ∧ KeepsLayouts s s')
      (fun _ p m _ held => Fitted.report_keeps held p m) (fun _ => True)
      (fun n _ _ => spec.keep n) node
      (fun _ _ _ => trivial) ⟨fitted, KeepsLayouts.refl s⟩
  refine ⟨kept.1, kept.2, ?_⟩
  -- only an integer or a resource is returned, as `resolve` typed it
  fun_cases returnType env layout node r s with
  | case2 p e declared size r₁ s₁ typed =>
    intro t returned
    cases returned
    have fits := resolve_fits pointer spec e fitted
      (show (resolve env layout e p r s).1 = some (.int size) by simp [typed])
    rw [typed] at fits
    simpa [declared] using fits
  | case3 p e declared name size r₁ s₁ typed =>
    intro t returned
    cases returned
    have fits := resolve_fits pointer spec e fitted
      (show (resolve env layout e p r s).1 = some (.resource name size) by simp [typed])
    rw [typed] at fits
    simpa [declared] using fits
  | _ => simp

include pointer in
/-- A syscall kept has the name of its declaration, and its arguments and return type fit,
embedding only structs the declaration names. -/
theorem compileSyscall_fits (fuel : Nat) (node : Description.Syscall) (fitted : Fitted env s) :
    Fitted env (compileSyscall env fuel node s).2 ∧
      KeepsLayouts s (compileSyscall env fuel node s).2 ∧
      ∀ c, (compileSyscall env fuel node s).1.1 = some c → c.name = node.name ∧
        ∀ t ∈ c.args.map (·.type) ++ c.ret.toList,
          TypeFits env (compileSyscall env fuel node s).2.layouts node.typeNames t := by
  have spec := recordLayout_fits pointer fuel
  obtain ⟨fitted₁, keeps₁, argsFit⟩ := resolveFields_fits pointer spec node.args fitted (r := {})
  rcases resolved : resolveFields env (recordLayout env fuel) node.args {} s with
    ⟨⟨fields, ok⟩, r₁, s₁⟩
  rw [resolved] at fitted₁ keeps₁ argsFit
  obtain ⟨fitted₂, keeps₂, retFits⟩ := returnType_fits pointer spec node fitted₁ (r := r₁)
  rcases typed : returnType env (recordLayout env fuel) node r₁ s₁ with ⟨⟨ret, retOk⟩, r₂, s₂⟩
  rw [typed] at fitted₂ keeps₂ retFits
  rcases numbered : syscallNumber env node.callName r₂ with ⟨nr, r₃⟩
  rw [compileSyscall_eq resolved typed numbered]
  split
  · refine ⟨fitted₂, keeps₁.trans keeps₂, fun c built => ?_⟩
    split at built
    · cases built
      refine ⟨rfl, fun t member => ?_⟩
      rcases List.mem_append.mp member with arg | returned
      · obtain ⟨f, inFields, rfl⟩ := List.mem_map.mp arg
        exact (argsFit f inFields).mono keeps₂ (List.subset_append_left _ _)
      · exact (retFits t (by simpa using returned)).mono (KeepsLayouts.refl _)
          (List.subset_append_right _ _)
    · cases built
  · exact ⟨fitted₂, keeps₁.trans keeps₂, fun c none => by cases none⟩

include pointer in
theorem compileSyscalls_fits (fuel : Nat) (nodes : List Description.Syscall)
    (acc : List Syscall × List String × State) (fitted : Fitted env acc.2.2) :
    Fitted env (nodes.foldl (syscallStep env fuel) acc).2.2 ∧
      KeepsLayouts acc.2.2 (nodes.foldl (syscallStep env fuel) acc).2.2 ∧
      ∀ c ∈ (nodes.foldl (syscallStep env fuel) acc).1, c ∈ acc.1 ∨ ∃ node ∈ nodes,
        c.name = node.name ∧ ∀ t ∈ c.args.map (·.type) ++ c.ret.toList,
          TypeFits env (nodes.foldl (syscallStep env fuel) acc).2.2.layouts node.typeNames t := by
  induction nodes generalizing acc with
  | nil => exact ⟨fitted, KeepsLayouts.refl _, fun c member => .inl member⟩
  | cons node rest ih =>
    obtain ⟨turn, keeps, built⟩ := compileSyscall_fits pointer fuel node fitted
    obtain ⟨fittedRest, keepsRest, restBuilt⟩ := ih (syscallStep env fuel acc node) turn
    refine ⟨fittedRest, keeps.trans keepsRest, fun c member => ?_⟩
    rcases restBuilt c member with earlier | ⟨other, inRest, named, typesFit⟩
    · have step : c ∈ acc.1 ++ (compileSyscall env fuel node acc.2.2).1.1.toList := earlier
      rcases List.mem_append.mp step with old | new
      · exact .inl old
      · obtain ⟨named, typesFit⟩ := built c (by simpa using new)
        exact .inr ⟨node, List.mem_cons_self .., named,
          fun t member => (typesFit t member).mono keepsRest (List.Subset.refl _)⟩
    · exact .inr ⟨other, List.mem_cons_of_mem _ inRest, named, typesFit⟩

theorem Fitted.empty (env : Env) : Fitted env {} where
  resources _ _ bound := by cases bound
  aligned _ _ bound := by cases bound
  idle _ member := by cases member
  descs _ _ found := by cases found

include pointer in
/-- What compiling leaves: every state from the structs' layout on is fitted, the structs kept
are descriptions that state held, the syscalls kept have arguments and return types that fit the
final layouts, and every resource's base is an integer aligned at 1, 2, 4 or 8. -/
theorem compileAll_fits {s₂ : State}
    (laid : layOutRecords env env.description.records.length env.description.records
      (compileResources env env.description.resources {}).2.2 = s₂) :
    Fitted env s₂ ∧ KeepsLayouts s₂ (compileAll env).2 ∧
      (∀ desc ∈ (compileAll env).1.records, ∃ k, s₂.descs.lookup k = some desc) ∧
      (∀ c ∈ (compileAll env).1.syscalls, ∃ node ∈ env.description.syscalls,
        c.name = node.name ∧ ∀ t ∈ c.args.map (·.type) ++ c.ret.toList,
          TypeFits env (compileAll env).2.layouts node.typeNames t) ∧
      ∀ res ∈ (compileAll env).1.resources, ∃ size, res.base = .int size ∧ IsAlign size := by
  let fuel := env.description.records.length
  rcases phase₁ : compileResources env env.description.resources {} with ⟨resources, u₁, s₁⟩
  rw [phase₁] at laid
  rcases phase₃ : keepRecords env.description.records u₁ s₂ with ⟨records, u₂, s₃⟩
  rcases phase₄ : compileSyscalls env fuel env.description.syscalls u₂ s₃ with
    ⟨syscalls, u₃, s₄⟩
  have whole : compileAll env =
      ((⟨numberSyscalls syscalls, resources, records, sortedNames u₃⟩ : Program), s₄) := by
    simp only [compileAll, phase₁, fuel, laid, phase₃, phase₄]
  rw [whole]
  -- the resources bind aligned scalars
  obtain ⟨fitted₁, based⟩ :=
    compileResources_fits pointer env.description.resources ([], [], {}) (Fitted.empty env)
  rw [← compileResources, phase₁] at fitted₁ based
  -- every struct is laid out, keeping the state fitted
  have fitted₂ : Fitted env s₂ := by
    rw [← laid]
    exact layOutRecords_preserves (Fitted env)
      (fun n s held => (recordLayout_fits pointer fuel n s held).1) _ fitted₁
  -- keeping structs only drops descriptions
  have state₃ := keepRecords_eq_state phase₃
  obtain ⟨fewer, kept⟩ := keepRecords_from_descs env.description.records ([], u₁, s₂)
  unfold keepRecords at phase₃
  rw [phase₃] at fewer kept
  have fitted₃ : Fitted env s₃ := by
    rw [state₃]
    exact fitted₂.prune s₃.descs fewer
  -- the syscalls are compiled from there
  obtain ⟨-, keeps₄, built⟩ :=
    compileSyscalls_fits pointer fuel env.description.syscalls ([], u₂, s₃) fitted₃
  unfold compileSyscalls at phase₄
  rw [phase₄] at keeps₄ built
  have keeps : KeepsLayouts s₂ s₄ := by
    rw [state₃] at keeps₄
    exact keeps₄
  refine ⟨fitted₂, keeps, fun desc member => ?_, fun c member => ?_, fun res member => ?_⟩
  · rcases kept desc member with none | found
    · cases none
    · exact found
  · obtain ⟨c', compiledHere, i, rfl⟩ := mem_numberSyscalls member
    rcases built c' compiledHere with none | ⟨node, declared, named, typesFit⟩
    · cases none
    · exact ⟨node, declared, named, typesFit⟩
  · rcases based res member with none | typed
    · cases none
    · exact typed

include pointer in
/-- The description a kept struct carries is the one its layout bound. -/
theorem compileAll_kept_desc {s₂ : State}
    (laid : layOutRecords env env.description.records.length env.description.records
      (compileResources env env.description.resources {}).2.2 = s₂)
    {desc : RecordDesc} (member : desc ∈ (compileAll env).1.records) :
    s₂.descs.lookup desc.name = some desc := by
  obtain ⟨fitted₂, -, fromDescs, -⟩ := compileAll_fits pointer laid
  obtain ⟨k, found⟩ := fromDescs desc member
  rw [(fitted₂.descs k desc found).name]
  exact found

include pointer in
/-- When a struct is kept whenever something kept reaches it, every type of the program fits the
laid-out structs and embeds only structs that are kept. -/
theorem compileAll_types_fit {s₂ : State}
    (laid : layOutRecords env env.description.records.length env.description.records
      (compileResources env env.description.resources {}).2.2 = s₂)
    (distinct : env.description.Distinct) (wf : env.description.WellFormed)
    (closed : ∀ start n, env.description.ReachedBound env.consts start →
      env.description.Reaches start n → n ∈ (compileAll env).1.records.map (·.name))
    (syscallsBound : ∀ node ∈ env.description.syscalls,
      node.name ∈ (compileAll env).1.syscalls.map (·.name) →
        env.description.ReachedBound env.consts node.typeNames)
    (recordsBound : ∀ node ∈ env.description.records,
      node.name ∈ (compileAll env).1.records.map (·.name) →
        env.description.ReachedBound env.consts [node.name])
    {t : TypeDesc} (member : t ∈ (compileAll env).1.types) :
    ∃ names, TypeFits env s₂.layouts names t ∧ ∀ n ∈ names, n ∈ env.description.recordNames →
      n ∈ (compileAll env).1.records.map (·.name) := by
  obtain ⟨fitted₂, keeps, -, callsFit, based⟩ := compileAll_fits pointer laid
  -- every struct is bound once laid out
  obtain ⟨-, boundRecords, -⟩ := layOutRecords_after_resources distinct wf
  rw [laid] at boundRecords
  have bound : ∀ n ∈ env.description.recordNames, (s₂.layouts.lookup n).isSome := by
    intro n named
    obtain ⟨node, declared, rfl⟩ := List.mem_map.mp named
    exact boundRecords node declared
  -- a type comes from a syscall, from a kept struct's fields or from a resource
  simp only [Program.types, List.mem_append, List.mem_flatMap, List.mem_map] at member
  rcases member with (⟨c, called, typed⟩ | ⟨desc, kept, f, inFields, rfl⟩) |
    ⟨res, inResources, rfl⟩
  · obtain ⟨node, declared, named, typesFit⟩ := callsFit c called
    refine ⟨node.typeNames, (typesFit t (by simpa using typed)).settle keeps bound,
      fun n inNames record => closed _ n ?_ ⟨n, inNames, record, .refl⟩⟩
    exact syscallsBound node declared (named ▸ List.mem_map_of_mem called)
  · obtain ⟨-, -, -, node, found, fieldsFit⟩ :=
      fitted₂.descs desc.name desc (compileAll_kept_desc pointer laid kept)
    obtain ⟨declared, named⟩ := findRecord_spec found
    refine ⟨node.typeNames, fieldsFit f inFields, fun n inNames record => ?_⟩
    have reached : env.description.Reaches [node.name] n :=
      ⟨node.name, List.mem_singleton_self _, List.mem_map_of_mem declared,
        .single ⟨node, declared, rfl, inNames, record⟩⟩
    exact closed _ n (recordsBound node declared (named ▸ List.mem_map_of_mem kept)) reached
  · obtain ⟨size, typed, aligned⟩ := based res inResources
    refine ⟨[], ?_, by simp⟩
    rw [typed]
    exact .ofSize (by simp) (by simp) aligned

include pointer in
/-- Compiled descriptions follow the C rules when a struct is kept whenever something kept
reaches it. -/
theorem compileAll_followsCLayout (distinct : env.description.Distinct)
    (wf : env.description.WellFormed)
    (closed : ∀ start n, env.description.ReachedBound env.consts start →
      env.description.Reaches start n → n ∈ (compileAll env).1.records.map (·.name))
    (syscallsBound : ∀ node ∈ env.description.syscalls,
      node.name ∈ (compileAll env).1.syscalls.map (·.name) →
        env.description.ReachedBound env.consts node.typeNames)
    (recordsBound : ∀ node ∈ env.description.records,
      node.name ∈ (compileAll env).1.records.map (·.name) →
        env.description.ReachedBound env.consts [node.name]) :
    (compileAll env).1.FollowsCLayout := by
  let s₂ := layOutRecords env env.description.records.length env.description.records
    (compileResources env env.description.resources {}).2.2
  have laid : layOutRecords env env.description.records.length env.description.records
      (compileResources env env.description.resources {}).2.2 = s₂ := rfl
  have fitted₂ : Fitted env s₂ := (compileAll_fits pointer laid).1
  have typesFit := fun t => compileAll_types_fit pointer laid distinct wf closed syscallsBound
    recordsBound (t := t)
  refine ⟨fun desc member => ?_, fun t member => ?_, fun t member n size align embedded => ?_⟩
  · have fits := fitted₂.descs desc.name desc (compileAll_kept_desc pointer laid member)
    exact ⟨fits.rules, fitted₂.aligned desc.name _ fits.laidOut⟩
  · obtain ⟨names, fits, -⟩ := typesFit t member
    exact fits.aligned
  · -- a struct embedded is kept, with the description its layout bound
    obtain ⟨names, fits, closedNames⟩ := typesFit t member
    obtain ⟨bound, named, record⟩ := fits.embedded n size align embedded
    obtain ⟨desc, kept, rfl⟩ := List.mem_map.mp (closedNames n named record)
    have fitsDesc := fitted₂.descs desc.name desc (compileAll_kept_desc pointer laid kept)
    rw [fitsDesc.laidOut] at bound
    simp only [Option.some.injEq, Prod.mk.injEq] at bound
    exact ⟨desc, kept, rfl, bound.1, bound.2⟩

end Phases

end SyscallTables.Compile

namespace SyscallTables

open Description Compile

/-- For a target whose pointers are 4 or 8 bytes wide, descriptions that read and compile give a
program laid out by the C rules: every struct follows them, every alignment is 1, 2, 4 or 8, and
every struct embedded in a syscall's arguments or return type or in a struct's fields carries
the size and alignment of the struct of its name. -/
theorem compile_follows_c_layout {d : Description} {consts : ConstTable} {target : Target}
    {p : Program} {t : FileTree} {cwd : Location} {pattern : Path}
    (read : readPattern t cwd pattern = .ok d) (pointer : target.ptrSize = 4 ∨ target.ptrSize = 8)
    (compiled : d.compile consts target = .ok p) : p.FollowsCLayout := by
  obtain ⟨distinct, wf⟩ := readPattern_spec read
  obtain ⟨syscallsKept, -, recordsKept⟩ := compile_keeps_supported distinct wf compiled
  obtain ⟨-, built⟩ := compile_quiet compiled
  subst built
  have aligned : IsAlign target.ptrSize := by
    rcases pointer with four | eight
    · rw [four]
      decide
    · rw [eight]
      decide
  -- a struct reached from something supported is supported, hence kept
  have closed : ∀ start n, d.ReachedBound consts start → d.Reaches start n →
      n ∈ (compileAll ⟨d, consts, target⟩).1.records.map (·.name) := by
    intro start n supported reach
    obtain ⟨a, -, record, path⟩ := id reach
    obtain ⟨r, member, rfl⟩ := List.mem_map.mp (reached_mem path record)
    exact (recordsKept r member).mpr (supported.reached reach)
  exact compileAll_followsCLayout aligned distinct wf closed
    (fun node member kept => ((syscallsKept node member).mp kept).2)
    (fun node member kept => (recordsKept node member).mp kept)

/-- A struct of an `int8` and an `int32`, which places the second field past three bytes of
padding. -/
theorem padded_struct_follows_c_layout :
    ∃ d p, readPattern ⟨[(["d"], .directory), (["d", "e"], .file
        ("[[struct]]\nname = \"a\"\nfields = [\x7b name = \"x\", type = \"int8\" \x7d, " ++
          "\x7b name = \"y\", type = \"int32\" \x7d]\n"))]⟩ [] ⟨"d/*"⟩ = .ok d ∧
      (Target.make "linux" "amd64" 8 []).ptrSize = 8 ∧
      d.compile {} (Target.make "linux" "amd64" 8 []) = .ok p ∧ p.FollowsCLayout := by
  let a : Description.Record := ⟨⟨"d/e", 2, 8⟩, "a", false,
    [⟨⟨"d/e", 3, 32⟩, "x", .ident "int8"⟩, ⟨⟨"d/e", 3, 63⟩, "y", .ident "int32"⟩]⟩
  have read : readPattern ⟨[(["d"], .directory), (["d", "e"], .file
        ("[[struct]]\nname = \"a\"\nfields = [\x7b name = \"x\", type = \"int8\" \x7d, " ++
          "\x7b name = \"y\", type = \"int32\" \x7d]\n"))]⟩ [] ⟨"d/*"⟩ =
      .ok { files := ["d/e"], records := [a] } := by
    cbv
  have compiled : Description.compile { files := ["d/e"], records := [a] }
      {} (Target.make "linux" "amd64" 8 []) =
      .ok { records := [⟨"a", false, 8, 4, [⟨"x", .int 1⟩, ⟨"y", .int 4⟩]⟩] } := by
    cbv
  exact ⟨_, _, read, rfl, compiled, compile_follows_c_layout read (.inr rfl) compiled⟩

end SyscallTables
