import SyscallTables.Proofs.Compile.Dependencies

namespace SyscallTables.Compile

open Description

/-! Resolving types, stated once for any way of laying out structs. Each step only adds
diagnostics, keeps the resource types, and leaves alone every struct already laid out and
every name that is no struct. A type that does not resolve leaves a diagnostic behind; a type
that resolves adds exactly its dependencies: the constants it names that the target lacks and
the structs it uses. -/

section Tables

variable {α : Type}

theorem lookup_filter_ne (m : List (String × α)) (k k' : String) :
    (m.filter (·.1 != k)).lookup k' = if k' = k then none else m.lookup k' := by
  induction m with
  | nil => simp
  | cons entry m ih =>
    obtain ⟨key, value⟩ := entry
    by_cases same : key = k
    · subst same
      have dropped : ((key, value) :: m).filter (·.1 != key) = m.filter (·.1 != key) := by
        simp
      rw [dropped, ih]
      by_cases found : k' = key
      · simp [found]
      · simp [found, List.lookup_cons, beq_eq_false_iff_ne.mpr found]
    · have kept : ((key, value) :: m).filter (·.1 != k) =
          (key, value) :: m.filter (·.1 != k) := by
        simp [same]
      rw [kept, List.lookup_cons, List.lookup_cons, ih]
      by_cases found : k' = key
      · subst found
        simp [same]
      · simp [beq_eq_false_iff_ne.mpr found]

@[simp] theorem lookup_bind (m : List (String × α)) (k k' : String) (v : α) :
    (bind m k v).lookup k' = if k' = k then some v else m.lookup k' := by
  by_cases same : k' = k
  · simp [bind, List.lookup_append, lookup_filter_ne, same]
  · have other : [(k, v)].lookup k' = none := by
      simp [List.lookup_cons, beq_eq_false_iff_ne.mpr same]
    simp [bind, List.lookup_append, lookup_filter_ne, same, other]

@[simp] theorem mem_addName {names : List String} {n m : String} :
    n ∈ addName names m ↔ n ∈ names ∨ n = m := by
  unfold addName
  by_cases present : names.contains m
  · simp only [present, if_true, iff_self_or]
    rintro rfl
    simpa using present
  · have absent : m ∉ names := by simpa using present
    simp [absent]

theorem mem_foldl_addName (l acc : List String) (n : String) :
    n ∈ l.foldl addName acc ↔ n ∈ acc ∨ n ∈ l := by
  induction l generalizing acc with
  | nil => simp
  | cons m l ih =>
    rw [List.foldl_cons, ih, mem_addName, List.mem_cons, or_assoc]

end Tables

section Report

variable (s : State) (p : Position) (m : String)

@[simp] theorem State.report_diagnostics :
    (s.report p m).diagnostics = s.diagnostics ++ [⟨p, m⟩] := rfl
@[simp] theorem State.report_resourceTypes : (s.report p m).resourceTypes = s.resourceTypes := rfl
@[simp] theorem State.report_layouts : (s.report p m).layouts = s.layouts := rfl
@[simp] theorem State.report_recordRefs : (s.report p m).recordRefs = s.recordRefs := rfl
@[simp] theorem State.report_descs : (s.report p m).descs = s.descs := rfl

end Report

section Messages

/-- The text reported for a struct met again while its own fields are resolved. -/
def recursionMessage (name : String) : String := "struct '" ++ name ++ "' is recursive"

/-- A text that reports no struct as embedding itself. -/
def NotRecursion (m : String) : Prop := ∀ name, m ≠ recursionMessage name

theorem notRecursion_of_head {m : String} (first : m.toList.head? ≠ some 's') : NotRecursion m := by
  intro name same
  rw [same, recursionMessage] at first
  simp at first

theorem recursionMessage_inj {a b : String} : recursionMessage a = recursionMessage b ↔ a = b := by
  simp [recursionMessage]

/-- The report of a bad return type names a syscall, which may start as the recursion report
does; the two texts end differently. -/
theorem notRecursion_returnType (name : String) :
    NotRecursion (name ++ ": return type must be an integer or resource") := by
  intro other same
  have ends := congrArg (fun m : String => m.toList.reverse.take 2) same
  simp [recursionMessage] at ends

end Messages

section Names

variable {env : Env}

theorem findRecord_spec {n : String} {node : Record} (found : findRecord env n = some node) :
    node ∈ env.description.records ∧ node.name = n := by
  have named := List.find?_some found
  exact ⟨List.mem_reverse.mp (List.mem_of_find?_eq_some found), by simpa using named⟩

theorem findRecord_isSome_iff {n : String} :
    (findRecord env n).isSome ↔ n ∈ env.description.recordNames := by
  simp [findRecord, recordNames]

theorem findRecord_of_builtin (distinct : env.description.Distinct) {n : String}
    (builtin : n ∈ builtinTypes) : findRecord env n = none := by
  rcases found : findRecord env n with _ | node
  · rfl
  · have named : n ∈ env.description.recordNames := findRecord_isSome_iff.mp (by simp [found])
    exact absurd builtin (distinct.notBuiltin n (List.mem_append_right _ named))

theorem findRecord_of_resource (distinct : env.description.Distinct) {n : String}
    (resource : isResource env n = true) : findRecord env n = none := by
  rcases found : findRecord env n with _ | node
  · rfl
  · have named : n ∈ env.description.recordNames := findRecord_isSome_iff.mp (by simp [found])
    have declared : n ∈ env.description.resources.map (·.name) := by
      simpa [isResource] using resource
    exact absurd rfl ((List.nodup_append.mp distinct.types).2.2 n declared n named)

end Names

/-- `r'` holds what `r` holds and the dependencies of some constants and type names: the
constants the target lacks, and the names that are structs. -/
structure Refs.Adds (env : Env) (r r' : Refs) (constants typeNames : List String) : Prop where
  missing : ∀ n, n ∈ r'.missing ↔ n ∈ r.missing ∨ n ∈ constants ∧ env.consts.get? n = none
  records : ∀ n, n ∈ r'.records ↔ n ∈ r.records ∨ n ∈ typeNames ∧ (findRecord env n).isSome

namespace Refs.Adds

variable {env : Env} {r r₁ r₂ : Refs} {c₁ c₂ t₁ t₂ : List String}

theorem trans (first : Adds env r r₁ c₁ t₁) (second : Adds env r₁ r₂ c₂ t₂) :
    Adds env r r₂ (c₁ ++ c₂) (t₁ ++ t₂) where
  missing n := by rw [second.missing, first.missing, List.mem_append, or_and_right, or_assoc]
  records n := by rw [second.records, first.records, List.mem_append, or_and_right, or_assoc]

/-- Names that add nothing: constants the target binds, and names that are no struct. -/
theorem nothing (bound : ∀ n ∈ c₁, env.consts.get? n ≠ none)
    (notRecords : ∀ n ∈ t₁, findRecord env n = none) : Adds env r r c₁ t₁ where
  missing n := by
    constructor
    · exact Or.inl
    · rintro (old | ⟨named, absent⟩)
      · exact old
      · exact absurd absent (bound n named)
  records n := by
    constructor
    · exact Or.inl
    · rintro (old | ⟨named, found⟩)
      · exact old
      · simp [notRecords n named] at found

theorem needRecord (n : String) (found : (findRecord env n).isSome) :
    Adds env r (r.needRecord n) [] [n] where
  missing n := by simp [Refs.needRecord]
  records m := by
    simp only [Refs.needRecord, mem_addName, List.mem_singleton]
    constructor
    · rintro (old | rfl)
      · exact Or.inl old
      · exact Or.inr ⟨rfl, found⟩
    · rintro (old | ⟨rfl, -⟩)
      · exact Or.inl old
      · exact Or.inr rfl

theorem lookup (name : String) : Adds env r (Compile.lookup env name r).2 [name] [] := by
  unfold Compile.lookup
  cases known : env.consts.get? name with
  | some v => exact nothing (by simp [known]) (by simp)
  | none =>
    constructor
    · intro n
      simp only [mem_addName, List.mem_singleton]
      constructor
      · rintro (old | rfl)
        · exact Or.inl old
        · exact Or.inr ⟨rfl, known⟩
      · rintro (old | ⟨rfl, -⟩)
        · exact Or.inl old
        · exact Or.inr rfl
    · simp

end Refs.Adds

/-- What every step of resolving keeps: diagnostics are only added, the resource types stay,
and a name that is laid out or is no struct keeps its layout and its recorded dependencies. -/
structure Step (env : Env) (s s' : State) : Prop where
  diagnostics : s.diagnostics <+: s'.diagnostics
  resourceTypes : s'.resourceTypes = s.resourceTypes
  settled : ∀ k, (s.layouts.lookup k).isSome ∨ findRecord env k = none →
    s'.layouts.lookup k = s.layouts.lookup k ∧ s'.recordRefs.lookup k = s.recordRefs.lookup k

namespace Step

variable {env : Env} {s s₁ s₂ : State}

theorem refl (s : State) : Step env s s :=
  ⟨List.prefix_refl _, rfl, fun _ _ => ⟨rfl, rfl⟩⟩

theorem trans (first : Step env s s₁) (second : Step env s₁ s₂) : Step env s s₂ where
  diagnostics := first.diagnostics.trans second.diagnostics
  resourceTypes := second.resourceTypes.trans first.resourceTypes
  settled k settledHere := by
    obtain ⟨layout₁, refs₁⟩ := first.settled k settledHere
    have settledThen : (s₁.layouts.lookup k).isSome ∨ findRecord env k = none := by
      rwa [layout₁]
    obtain ⟨layout₂, refs₂⟩ := second.settled k settledThen
    exact ⟨layout₂.trans layout₁, refs₂.trans refs₁⟩

theorem report (s : State) (p : Position) (m : String) : Step env s (s.report p m) :=
  ⟨List.prefix_append _ _, rfl, fun _ _ => ⟨rfl, rfl⟩⟩

theorem diagnostics_ne_nil (step : Step env s₁ s₂) (owed : s₁.diagnostics ≠ []) :
    s₂.diagnostics ≠ [] := by
  obtain ⟨added, grown⟩ := step.diagnostics
  rw [← grown]
  exact fun empty => owed (List.append_eq_nil_iff.mp empty).1

end Step

/-- A state that owes nothing: a diagnostic stands for every resource without a type and for
every struct whose layout failed, and every struct laid out has its dependencies recorded, as
its fields name them. -/
structure Sound (env : Env) (s : State) : Prop where
  resources : ∀ n, isResource env n = true →
    (s.resourceTypes.lookup n).isSome ∨ s.diagnostics ≠ []
  failed : ∀ n, s.layouts.lookup n = some none → s.diagnostics ≠ []
  laidOut : ∀ n l, s.layouts.lookup n = some (some l) → ∃ node refs,
    findRecord env n = some node ∧ s.recordRefs.lookup n = some refs ∧
      Refs.Adds env {} refs node.constants node.typeNames

theorem Sound.report {env : Env} {s : State} (sound : Sound env s) (p : Position) (m : String) :
    Sound env (s.report p m) where
  resources n resource := by simp
  failed n _ := by simp
  laidOut n l laid := sound.laidOut n l laid

/-- A state reached from `s₀` by steps, and sound. -/
structure Reached (env : Env) (s₀ s : State) : Prop where
  step : Step env s₀ s
  sound : Sound env s

theorem Reached.start {env : Env} {s : State} (hs : Sound env s) : Reached env s s :=
  ⟨Step.refl s, hs⟩

theorem Reached.report {env : Env} {s₀ s : State} {p : Position} (m : String)
    (reached : Reached env s₀ s) : Reached env s₀ (s.report p m) :=
  ⟨reached.step.trans (Step.report s p m), reached.sound.report p m⟩

/-- A way of laying out structs that steps as resolving does, keeps states sound, and leaves
a diagnostic for every struct it does not lay out. -/
structure LayoutSound (env : Env) (layout : Layout) : Prop where
  step : ∀ n s, Sound env s → Reached env s (layout n s).2
  fails : ∀ n s, Sound env s → (findRecord env n).isSome → (layout n s).1 = none →
    (layout n s).2.diagnostics ≠ []

section Constants

variable {env : Env} (P : State → Prop)
  (reported : ∀ s p m, NotRecursion m → P s → P (s.report p m)) {p : Position} {r : Refs}
  {s : State}

include reported in
theorem intType_preserves (e : TypeExpr) (holds : P s) : P (intType env e p s).2 := by
  unfold intType
  split
  · exact holds
  · exact reported _ _ _ (notRecursion_of_head (by simp)) holds

theorem intType_fails {e : TypeExpr} (failed : (intType env e p s).1 = none) :
    (intType env e p s).2.diagnostics ≠ [] := by
  unfold intType at failed ⊢
  split
  · simp_all
  · simp

include reported in
theorem constValue_preserves (arg : TypeExpr) (holds : P s) :
    P (constValue env arg p r s).2.2 := by
  unfold constValue
  split
  · split <;> exact holds
  · exact reported _ _ _ (notRecursion_of_head (by simp)) holds

theorem constValue_fails {arg : TypeExpr} (failed : (constValue env arg p r s).1 = none) :
    (constValue env arg p r s).2.2.diagnostics ≠ [] := by
  unfold constValue at failed ⊢
  split
  · split <;> simp_all
  · simp

theorem constValue_adds {arg : TypeExpr} :
    Refs.Adds env r (constValue env arg p r s).2.1 arg.constantName?.toList [] := by
  cases arg with
  | ident name =>
    cases literal : Literal.parse name with
    | some v =>
      simp only [constValue, literal, TypeExpr.constantName?, Option.isSome_some, if_true,
        Option.toList_none]
      exact Refs.Adds.nothing (by simp) (by simp)
    | none =>
      have added : Refs.Adds env r (lookup env name r).2 [name] [] := Refs.Adds.lookup name
      simpa [constValue, literal, TypeExpr.constantName?] using added
  | apply name args =>
    simp only [constValue, TypeExpr.constantName?, Option.toList_none]
    exact Refs.Adds.nothing (by simp) (by simp)

include reported in
theorem constValues_preserves (args : List TypeExpr) (holds : P s) :
    P (constValues env p args r s).2.2 := by
  induction args generalizing r s with
  | nil => exact holds
  | cons a rest ih =>
    have first : P (constValue env a p r s).2.2 := constValue_preserves P reported a holds
    rcases value : constValue env a p r s with ⟨_ | v, r₁, s₁⟩ <;> rw [value] at first
    · simpa [constValues, value] using first
    · have later : P (constValues env p rest r₁ s₁).2.2 := ih first
      rcases results : constValues env p rest r₁ s₁ with ⟨_ | vs, r₂, s₂⟩ <;>
        simp only [constValues, value, results] at later ⊢ <;> exact later

theorem constValues_fails {args : List TypeExpr}
    (failed : (constValues env p args r s).1 = none) :
    (constValues env p args r s).2.2.diagnostics ≠ [] := by
  induction args generalizing r s with
  | nil => simp [constValues] at failed
  | cons a rest ih =>
    rcases value : constValue env a p r s with ⟨_ | v, r₁, s₁⟩
    · have here := constValue_fails (show (constValue env a p r s).1 = none by simp [value])
      simpa [constValues, value] using here
    · rcases results : constValues env p rest r₁ s₁ with ⟨_ | vs, r₂, s₂⟩
      · have later := ih (show (constValues env p rest r₁ s₁).1 = none by simp [results])
        simpa [constValues, value, results] using later
      · simp [constValues, value, results] at failed

theorem constValues_adds {args : List TypeExpr}
    (resolved : (constValues env p args r s).1.isSome) :
    Refs.Adds env r (constValues env p args r s).2.1
      (args.filterMap TypeExpr.constantName?) [] := by
  induction args generalizing r s with
  | nil => simpa [constValues] using Refs.Adds.nothing (by simp) (by simp)
  | cons a rest ih =>
    rcases value : constValue env a p r s with ⟨_ | v, r₁, s₁⟩
    · simp [constValues, value] at resolved
    · rcases results : constValues env p rest r₁ s₁ with ⟨_ | vs, r₂, s₂⟩
      · simp [constValues, value, results] at resolved
      · have first : Refs.Adds env r (constValue env a p r s).2.1 a.constantName?.toList [] :=
          constValue_adds
        rw [value] at first
        have later : Refs.Adds env r₁ r₂ (rest.filterMap TypeExpr.constantName?) [] := by
          simpa [results] using ih (show (constValues env p rest r₁ s₁).1.isSome by
            simp [results])
        have names : (a :: rest).filterMap TypeExpr.constantName? =
            a.constantName?.toList ++ rest.filterMap TypeExpr.constantName? := by
          rcases named : a.constantName? with _ | c <;> simp [named]
        simpa [constValues, value, results, names] using first.trans later

end Constants

section Resolving

variable {env : Env} {layout : Layout} (P : State → Prop)
  (reported : ∀ s p m, NotRecursion m → P s → P (s.report p m)) (N : String → Prop)
  (laidOut : ∀ n s, N n → P s → P (layout n s).2) {p : Position} {r : Refs} {s : State}

include reported laidOut in
theorem resolveName_preserves (name : String) (direct : (findRecord env name).isSome → N name)
    (holds : P s) : P (resolveName env layout name p r s).2.2 := by
  fun_cases resolveName env layout name p r s with
  | case1 _ t s₁ typed =>
    have kept : P (intType env (.ident name) p s).2 := intType_preserves P reported _ holds
    simpa [typed] using kept
  | case2 => exact reported _ _ _ (notRecursion_of_head (by simp)) holds
  | case3 => exact holds
  | case4 _ _ _ found size align s₁ laid =>
    simpa [laid] using laidOut name s (direct found) holds
  | case5 _ _ _ found s₁ laid => simpa [laid] using laidOut name s (direct found) holds
  | case6 => exact reported _ _ _ (notRecursion_of_head (by simp)) holds

theorem resolveName_adds (distinct : env.description.Distinct) {name : String}
    (resolved : (resolveName env layout name p r s).1.isSome) :
    Refs.Adds env r (resolveName env layout name p r s).2.1 [] [name] := by
  revert resolved
  fun_cases resolveName env layout name p r s with
  | case1 integer t s₁ typed =>
    intro _
    have builtin : name ∈ builtinTypes :=
      (List.mem_append_left ["const", "flags", "ptr"] (List.contains_iff_mem.mp integer) :)
    exact Refs.Adds.nothing (by simp) (by simpa using findRecord_of_builtin distinct builtin)
  | case2 => simp
  | case3 _ _ resource =>
    intro _
    exact Refs.Adds.nothing (by simp) (by simpa using findRecord_of_resource distinct resource)
  | case4 _ _ _ found size align s₁ laid =>
    intro _
    exact Refs.Adds.needRecord name found
  | case5 => simp
  | case6 => simp

theorem resolveName_fails (sound : LayoutSound env layout) (hs : Sound env s) {name : String}
    (failed : (resolveName env layout name p r s).1 = none) :
    (resolveName env layout name p r s).2.2.diagnostics ≠ [] := by
  revert failed
  fun_cases resolveName env layout name p r s with
  | case1 _ t s₁ typed =>
    intro failed
    have untyped : (intType env (.ident name) p s).1 = none := by simpa [typed] using failed
    simpa [typed] using intType_fails untyped
  | case2 => simp
  | case3 _ _ resource =>
    intro failed
    rcases hs.resources name resource with bound | owed
    · have unbound : s.resourceTypes.lookup name = none := failed
      rw [unbound] at bound
      exact absurd bound (by simp)
    · exact owed
  | case4 => simp
  | case5 _ _ _ found s₁ laid =>
    intro _
    have owed := sound.fails name s hs found (by simp [laid])
    simpa [laid] using owed
  | case6 => simp

include reported in
theorem resolveConst_preserves (args : List TypeExpr) (holds : P s) :
    P (resolveConst env args p r s).2.2 := by
  fun_cases resolveConst env args p r s with
  | case1 => exact reported _ _ _ (notRecursion_of_head (by simp)) holds
  | case2 => exact holds
  | case3 first rest r₁ s₁ valued =>
    have kept : P (constValue env first p r s).2.2 := constValue_preserves P reported first holds
    simpa [valued] using kept
  | case4 first v r₁ s₁ valued size tail t s₂ typed =>
    have kept : P (constValue env first p r s).2.2 := constValue_preserves P reported first holds
    rw [valued] at kept
    have sized : P (intType env size p s₁).2 := intType_preserves P reported size kept
    simpa [typed] using sized
  | case5 first v r₁ s₁ valued size tail s₂ typed =>
    have kept : P (constValue env first p r s).2.2 := constValue_preserves P reported first holds
    rw [valued] at kept
    have sized : P (intType env size p s₁).2 := intType_preserves P reported size kept
    simpa [typed] using sized
  | case6 first v r₁ s₁ valued =>
    have kept : P (constValue env first p r s).2.2 := constValue_preserves P reported first holds
    simpa [valued] using kept

theorem resolveConst_adds {args : List TypeExpr}
    (resolved : (resolveConst env args p r s).1.isSome) :
    Refs.Adds env r (resolveConst env args p r s).2.1
      (args.head?.bind TypeExpr.constantName?).toList [] := by
  revert resolved
  fun_cases resolveConst env args p r s with
  | case4 first v r₁ s₁ valued =>
    intro _
    have added : Refs.Adds env r (constValue env first p r s).2.1 first.constantName?.toList [] :=
      constValue_adds
    simpa [valued] using added
  | case6 first v r₁ s₁ valued =>
    intro _
    have added : Refs.Adds env r (constValue env first p r s).2.1 first.constantName?.toList [] :=
      constValue_adds
    simpa [valued] using added
  | _ => simp

theorem resolveConst_fails {args : List TypeExpr} (nonempty : args ≠ [])
    (failed : (resolveConst env args p r s).1 = none) :
    (resolveConst env args p r s).2.2.diagnostics ≠ [] := by
  revert failed
  fun_cases resolveConst env args p r s with
  | case1 => simp
  | case2 => exact absurd rfl nonempty
  | case3 first rest r₁ s₁ valued =>
    intro _
    have owed := constValue_fails (show (constValue env first p r s).1 = none by simp [valued])
    simpa [valued] using owed
  | case5 first v r₁ s₁ valued size tail s₂ typed =>
    intro _
    have owed := intType_fails (show (intType env size p s₁).1 = none by simp [typed])
    simpa [typed] using owed
  | _ => simp

include reported in
theorem resolveFlags_preserves (args : List TypeExpr) (holds : P s) :
    P (resolveFlags env args p r s).2.2 := by
  have kept : P (constValues env p args r s).2.2 := constValues_preserves P reported args holds
  fun_cases resolveFlags env args p r s with
  | case1 values r₁ s₁ valued => simpa [valued] using kept
  | case2 r₁ s₁ valued => simpa [valued] using kept

theorem resolveFlags_adds {args : List TypeExpr}
    (resolved : (resolveFlags env args p r s).1.isSome) :
    Refs.Adds env r (resolveFlags env args p r s).2.1
      (args.filterMap TypeExpr.constantName?) [] := by
  revert resolved
  fun_cases resolveFlags env args p r s with
  | case1 values r₁ s₁ valued =>
    intro _
    simpa [valued] using constValues_adds (show (constValues env p args r s).1.isSome by
      simp [valued])
  | case2 => simp

theorem resolveFlags_fails {args : List TypeExpr}
    (failed : (resolveFlags env args p r s).1 = none) :
    (resolveFlags env args p r s).2.2.diagnostics ≠ [] := by
  revert failed
  fun_cases resolveFlags env args p r s with
  | case1 => simp
  | case2 r₁ s₁ valued =>
    intro _
    simpa [valued] using constValues_fails (show (constValues env p args r s).1 = none by
      simp [valued])

include reported laidOut in
theorem resolve_preserves (e : TypeExpr) (direct : ∀ n, e = .ident n → N n) (holds : P s) :
    P (resolve env layout e p r s).2.2 := by
  -- only a bare name lays out a struct: behind a pointer a struct is only named
  fun_induction resolve env layout e p r s with
  | case1 name p r s =>
    exact resolveName_preserves P reported N laidOut name (fun _ => direct name rfl) holds
  | case2 args p r s => exact resolveConst_preserves P reported args holds
  | case3 args p r s => exact resolveFlags_preserves P reported args holds
  | case4 p r s => exact holds
  | case5 p r₀ s₀ _ n unfound pointee r s named =>
    have kept : P (resolveName env layout n p r₀ s₀).2.2 :=
      resolveName_preserves P reported N laidOut n (fun found => absurd found unfound) holds
    simpa [named] using kept
  | case6 p r₀ s₀ _ name args pointee r s inner _ _ ih =>
    simpa [inner] using ih (fun _ applied => by cases applied) holds
  | case7 args p r s => exact reported _ _ _ (notRecursion_of_head (by simp)) holds
  | case8 name args p r s => exact reported _ _ _ (notRecursion_of_head (by simp)) holds

theorem resolve_adds (distinct : env.description.Distinct) {e : TypeExpr}
    (resolved : (resolve env layout e p r s).1.isSome) :
    Refs.Adds env r (resolve env layout e p r s).2.1 e.constants e.typeNames := by
  revert resolved
  fun_induction resolve env layout e p r s with
  | case1 name p r s =>
    intro resolved
    simpa using resolveName_adds distinct resolved
  | case2 args p r s =>
    intro resolved
    simpa using resolveConst_adds resolved
  | case3 args p r s =>
    intro resolved
    simpa using resolveFlags_adds resolved
  | case4 p r s _ n found =>
    intro _
    simpa using Refs.Adds.needRecord n found
  | case5 p r₀ s₀ _ n _ pointee r s named =>
    intro resolved
    have added := resolveName_adds distinct (show (resolveName env layout n p r₀ s₀).1.isSome by
      simpa [named] using resolved)
    simpa [named] using added
  | case6 p r₀ s₀ _ name args pointee r s inner _ _ ih =>
    intro resolved
    have added := ih (by simpa [inner] using resolved)
    simpa [inner] using added
  | case7 => simp
  | case8 => simp

theorem resolve_fails (sound : LayoutSound env layout) {e : TypeExpr} (wf : e.WellFormed)
    (hs : Sound env s) (failed : (resolve env layout e p r s).1 = none) :
    (resolve env layout e p r s).2.2.diagnostics ≠ [] := by
  revert wf hs failed
  fun_induction resolve env layout e p r s with
  | case1 name p r s => exact fun _ hs failed => resolveName_fails sound hs failed
  | case2 args p r s =>
    intro wf _ failed
    cases wf with
    | apply _ _ nonempty _ => exact resolveConst_fails nonempty failed
  | case3 args p r s => exact fun _ _ failed => resolveFlags_fails failed
  | case4 => simp
  | case5 p r₀ s₀ _ n _ pointee r s named =>
    intro _ hs failed
    have owed := resolveName_fails sound hs (show (resolveName env layout n p r₀ s₀).1 = none by
      simpa [named] using failed)
    simpa [named] using owed
  | case6 p r₀ s₀ _ name args pointee r s inner _ _ ih =>
    intro wf hs failed
    cases wf with
    | apply _ _ _ each =>
      have owed := ih (each _ (by simp)) hs (by simpa [inner] using failed)
      simpa [inner] using owed
  | case7 => simp
  | case8 => simp

include reported laidOut in
theorem resolveFields_preserves (fields : List Description.Field)
    (direct : ∀ f ∈ fields, ∀ n, f.type = .ident n → N n) (holds : P s) :
    P (resolveFields env layout fields r s).2.2 := by
  revert direct holds
  fun_induction resolveFields env layout fields r s with
  | case1 r s => exact fun _ => id
  | case2 f rest r s r₁ s₁ _ _ r₂ s₂ later t resolved ih =>
    intro direct holds
    have first : P (resolve env layout f.type f.position r s).2.2 :=
      resolve_preserves P reported N laidOut f.type (direct f (by simp)) holds
    rw [resolved] at first
    simpa [later] using ih (fun g member => direct g (List.mem_cons_of_mem f member)) first
  | case3 f rest r s r₁ s₁ _ _ r₂ s₂ later resolved ih =>
    intro direct holds
    have first : P (resolve env layout f.type f.position r s).2.2 :=
      resolve_preserves P reported N laidOut f.type (direct f (by simp)) holds
    rw [resolved] at first
    simpa [later] using ih (fun g member => direct g (List.mem_cons_of_mem f member)) first

include reported laidOut in
theorem returnType_preserves (node : Description.Syscall)
    (direct : ∀ p n, node.ret = some (p, .ident n) → N n) (holds : P s) :
    P (returnType env layout node r s).2.2 := by
  fun_cases returnType env layout node r s with
  | case1 => exact holds
  | case2 p e declared size r₁ s₁ resolved =>
    have kept : P (resolve env layout e p r s).2.2 :=
      resolve_preserves P reported N laidOut e (fun n bare => direct p n (bare ▸ declared)) holds
    simpa [resolved] using kept
  | case3 p e declared name size r₁ s₁ resolved =>
    have kept : P (resolve env layout e p r s).2.2 :=
      resolve_preserves P reported N laidOut e (fun n bare => direct p n (bare ▸ declared)) holds
    simpa [resolved] using kept
  | case4 p e declared t r₁ s₁ _ _ resolved =>
    have kept : P (resolve env layout e p r s).2.2 :=
      resolve_preserves P reported N laidOut e (fun n bare => direct p n (bare ▸ declared)) holds
    rw [resolved] at kept
    exact reported _ _ _ (notRecursion_returnType node.name) kept
  | case5 p e declared r₁ s₁ resolved =>
    have kept : P (resolve env layout e p r s).2.2 :=
      resolve_preserves P reported N laidOut e (fun n bare => direct p n (bare ▸ declared)) holds
    simpa [resolved] using kept

theorem resolveFields_adds (distinct : env.description.Distinct)
    {fields : List Description.Field} (allResolved : (resolveFields env layout fields r s).1.2) :
    Refs.Adds env r (resolveFields env layout fields r s).2.1
      (fields.flatMap (·.type.constants)) (fields.flatMap (·.type.typeNames)) := by
  revert allResolved
  fun_induction resolveFields env layout fields r s with
  | case1 r s => exact fun _ => Refs.Adds.nothing (by simp) (by simp)
  | case2 f rest r s r₁ s₁ _ _ r₂ s₂ later t resolved ih =>
    intro allResolved
    have first : Refs.Adds env r (resolve env layout f.type f.position r s).2.1
        f.type.constants f.type.typeNames := resolve_adds distinct (by simp [resolved])
    rw [resolved] at first
    have rest := ih (by simpa [later] using allResolved)
    simpa [later] using first.trans rest
  | case3 => simp

end Resolving

section Sound

variable {env : Env} {layout : Layout} {p : Position} {r : Refs} {s₀ s : State}

theorem LayoutSound.reached (sound : LayoutSound env layout) (n : String)
    (reached : Reached env s₀ s) : Reached env s₀ (layout n s).2 :=
  ⟨reached.step.trans (sound.step n s reached.sound).step, (sound.step n s reached.sound).sound⟩

theorem resolve_step (sound : LayoutSound env layout) (e : TypeExpr) (hs : Sound env s) :
    Reached env s (resolve env layout e p r s).2.2 :=
  resolve_preserves (Reached env s) (fun _ _ m _ => Reached.report m) (fun _ => True)
    (fun n _ _ => sound.reached n) e (fun _ _ => trivial) (Reached.start hs)

theorem resolveFields_step (sound : LayoutSound env layout) (fields : List Description.Field)
    (hs : Sound env s) : Reached env s (resolveFields env layout fields r s).2.2 :=
  resolveFields_preserves (Reached env s) (fun _ _ m _ => Reached.report m) (fun _ => True)
    (fun n _ _ => sound.reached n) fields (fun _ _ _ _ => trivial) (Reached.start hs)

theorem resolveFields_fails (sound : LayoutSound env layout) {fields : List Description.Field}
    (wf : ∀ f ∈ fields, f.type.WellFormed) (hs : Sound env s)
    (failed : (resolveFields env layout fields r s).1.2 = false) :
    (resolveFields env layout fields r s).2.2.diagnostics ≠ [] := by
  revert wf hs failed
  fun_induction resolveFields env layout fields r s with
  | case1 => simp
  | case2 f rest r s r₁ s₁ _ _ r₂ s₂ later t resolved ih =>
    intro wf hs failed
    have reached : Reached env s (resolve env layout f.type f.position r s).2.2 :=
      resolve_step sound f.type hs
    rw [resolved] at reached
    have owed := ih (fun g member => wf g (List.mem_cons_of_mem f member)) reached.sound
      (by simpa [later] using failed)
    simpa [later] using owed
  | case3 f rest r s r₁ s₁ _ _ r₂ s₂ later resolved ih =>
    intro wf hs _
    have owedHere : (resolve env layout f.type f.position r s).2.2.diagnostics ≠ [] :=
      resolve_fails sound (wf f (by simp)) hs (by simp [resolved])
    have reached : Reached env s (resolve env layout f.type f.position r s).2.2 :=
      resolve_step sound f.type hs
    rw [resolved] at owedHere reached
    have stepped : Reached env s₁ (resolveFields env layout rest r₁ s₁).2.2 :=
      resolveFields_step sound rest reached.sound
    rw [later] at stepped
    exact stepped.step.diagnostics_ne_nil owedHere

theorem returnType_step (sound : LayoutSound env layout) (node : Description.Syscall)
    (hs : Sound env s) : Reached env s (returnType env layout node r s).2.2 := by
  fun_cases returnType env layout node r s with
  | case1 => exact Reached.start hs
  | case2 p e _ size r₁ s₁ resolved =>
    simpa [resolved] using (resolve_step sound e hs : Reached env s (resolve env layout e p r s).2.2)
  | case3 p e _ name size r₁ s₁ resolved =>
    simpa [resolved] using (resolve_step sound e hs : Reached env s (resolve env layout e p r s).2.2)
  | case4 p e _ t r₁ s₁ _ _ resolved =>
    have reached : Reached env s (resolve env layout e p r s).2.2 := resolve_step sound e hs
    rw [resolved] at reached
    exact reached.report _
  | case5 p e _ r₁ s₁ resolved =>
    simpa [resolved] using (resolve_step sound e hs : Reached env s (resolve env layout e p r s).2.2)

theorem returnType_fails (sound : LayoutSound env layout) {node : Description.Syscall}
    (wf : ∀ p e, node.ret = some (p, e) → e.WellFormed) (hs : Sound env s)
    (failed : (returnType env layout node r s).1.2 = false) :
    (returnType env layout node r s).2.2.diagnostics ≠ [] := by
  revert failed
  fun_cases returnType env layout node r s with
  | case4 => simp
  | case5 p e declared r₁ s₁ resolved =>
    intro _
    have owed : (resolve env layout e p r s).2.2.diagnostics ≠ [] :=
      resolve_fails sound (wf p e declared) hs (by simp [resolved])
    simpa [resolved] using owed
  | _ => simp

end Sound

section Syscalls

variable {env : Env} {layout : Layout} {r : Refs} {s : State}

theorem returnType_adds (distinct : env.description.Distinct) {node : Description.Syscall}
    (resolved : (returnType env layout node r s).1.2) :
    Refs.Adds env r (returnType env layout node r s).2.1
      ((node.ret.map (·.2.constants)).getD []) ((node.ret.map (·.2.typeNames)).getD []) := by
  revert resolved
  fun_cases returnType env layout node r s with
  | case1 declared =>
    intro _
    simpa [declared] using Refs.Adds.nothing (by simp) (by simp)
  | case2 p e declared size r₁ s₁ typed =>
    intro _
    have added : Refs.Adds env r (resolve env layout e p r s).2.1 e.constants e.typeNames :=
      resolve_adds distinct (by simp [typed])
    simpa [declared, typed] using added
  | case3 p e declared name size r₁ s₁ typed =>
    intro _
    have added : Refs.Adds env r (resolve env layout e p r s).2.1 e.constants e.typeNames :=
      resolve_adds distinct (by simp [typed])
    simpa [declared, typed] using added
  | _ => simp

theorem syscallNumber_adds (c : Description.Syscall) :
    Refs.Adds env r (syscallNumber env c.callName r).2 (c.numberConstant env.target) [] := by
  unfold syscallNumber Syscall.numberConstant
  by_cases synthetic : c.callName.startsWith syntheticPrefix
  · simpa [synthetic] using Refs.Adds.nothing (by simp) (by simp)
  · by_cases numbered : env.target.syscallNumbers
    · simpa [synthetic, numbered] using Refs.Adds.lookup ("__NR_" ++ c.callName)
    · simpa [synthetic, numbered] using Refs.Adds.nothing (by simp) (by simp)

end Syscalls

end SyscallTables.Compile
