import Mathlib.Data.List.Perm.Subperm
import SyscallTables.Proofs.Compile.Supported

namespace SyscallTables

open Relation

/-! Structs that embed themselves. A struct embeds another when one of its fields has the other
as its bare type; behind a pointer a struct is only named, so `list` with a field `ptr[list]`
embeds nothing. Laying out structs keeps a list of those whose fields are being resolved and
reports a struct met again while it is on that list. Each struct on the list reaches the struct
asked for through embeddings, so a struct found on the list lies on a cycle. Conversely, a
struct is bound only after every struct it embeds, so while nothing is reported the bound
structs are closed under embedding and lie on no cycle; every struct being laid out, a cycle
is always reported. -/

namespace Description

def Embeds (d : Description) (a b : String) : Prop :=
  ∃ r ∈ d.records, r.name = a ∧ ∃ f ∈ r.fields, f.type = .ident b ∧ b ∈ d.recordNames

theorem Embeds.source_mem {d : Description} {a b : String} (edge : d.Embeds a b) :
    a ∈ d.recordNames := by
  obtain ⟨r, member, rfl, -⟩ := edge
  exact List.mem_map_of_mem member

end Description

namespace Compile

open Description

variable {env : Env} {name : String} {node : Record} {s s' s₂ : State}

section Embedding

theorem embeds_of_field (found : findRecord env name = some node) {f : Description.Field}
    (member : f ∈ node.fields) {b : String} (bare : f.type = .ident b)
    (record : b ∈ env.description.recordNames) : env.description.Embeds name b := by
  obtain ⟨declared, named⟩ := findRecord_spec found
  exact ⟨node, declared, named, f, member, bare, record⟩

/-- Names being distinct, the struct found under a name is the one whose fields embed. -/
theorem field_of_embeds (distinct : env.description.Distinct)
    (found : findRecord env name = some node) {b : String} (edge : env.description.Embeds name b) :
    ∃ f ∈ node.fields, f.type = .ident b ∧ b ∈ env.description.recordNames := by
  obtain ⟨r, declared, named, embedding⟩ := edge
  obtain ⟨declared', named'⟩ := findRecord_spec found
  obtain rfl : r = node :=
    List.inj_on_of_nodup_map distinct.recordNames_nodup declared declared' (named.trans named'.symm)
  exact embedding

end Embedding

section Fuel

theorem recordLayout_of_unknown {fuel : Nat} (s : State) (unknown : findRecord env name = none) :
    recordLayout env fuel name s = (none, s) := by
  cases fuel <;> simp [recordLayout, unknown]

/-- A property of every fuel's layout follows from its holding at each fuel once it holds at
the fuel below. -/
theorem recordLayout_induction (R : Nat → Layout → Prop)
    (step : ∀ fuel, (∀ fewer, fuel = fewer + 1 → R fewer (recordLayout env fewer)) →
      R fuel (recordLayout env fuel))
    (fuel : Nat) : R fuel (recordLayout env fuel) := by
  induction fuel with
  | zero => exact step 0 fun _ impossible => absurd impossible (by omega)
  | succ fewer ih =>
    refine step _ fun k same => ?_
    obtain rfl : fewer = k := by omega
    exact ih

/-- What resolving the fields of a struct keeps, when its reports and the layouts of the fuel
below keep it. -/
theorem fields_preserve {fewer : Nat} (P : State → Prop)
    (reported : ∀ s p m, NotRecursion m → P s → P (s.report p m)) (N : String → Prop)
    (inner : ∀ n s, N n → P s → P (recordLayout env fewer n s).2)
    {fields : List Description.Field} (direct : ∀ f ∈ fields, ∀ n, f.type = .ident n → N n)
    {r refs : Refs} {s₁ : State} {result : List Field × Bool}
    (resolved : resolveFields env (recordLayout env fewer) fields r s₁ = (result, refs, s₂))
    (holds : P s₁) : P s₂ := by
  have kept : P (resolveFields env (recordLayout env fewer) fields r s₁).2.2 :=
    resolveFields_preserves P reported N inner fields direct holds
  rwa [resolved] at kept

theorem filter_append_ne (l : List String) (idle : name ∉ l) :
    (l ++ [name]).filter (· != name) = l := by
  rw [List.filter_append, List.filter_eq_self.mpr, List.filter_singleton]
  · simp
  · intro x member
    have other : x ≠ name := fun same => idle (same ▸ member)
    simpa using other

end Fuel

section Frame

/-- Laying out a struct leaves the list of structs in progress as it found it. -/
theorem recordLayout_inProgress (fuel : Nat) :
    ∀ name s, (recordLayout env fuel name s).2.inProgress = s.inProgress := by
  refine recordLayout_induction (fun _ layout => ∀ n s, (layout n s).2.inProgress = s.inProgress)
    (fun fuel inner name s => ?_) fuel
  have step : LayoutStep env fuel name s (recordLayout env fuel name s) :=
    recordLayout_step fuel name s
  generalize recordLayout env fuel name s = result at step ⊢
  -- the fields are resolved with the struct on the list, and it is taken off afterwards
  cases step with
  | unknown => rfl
  | known => rfl
  | recursive => rfl
  | failed node fewer more found fresh idle fields ok refs s₂ resolved
  | laidOut node fewer more found fresh idle fields refs s₂ resolved =>
    have kept : s₂.inProgress = s.inProgress ++ [name] :=
      fields_preserve (fun s' => s'.inProgress = s.inProgress ++ [name]) (fun _ _ _ _ => id)
        (fun _ => True) (fun n s' _ same => (inner fewer more n s').trans same)
        (fun _ _ _ _ => trivial) resolved rfl
    simp only [kept, filter_append_ne _ idle]

/-- Laying out a struct only adds diagnostics. -/
theorem recordLayout_diagnostics (fuel : Nat) :
    ∀ name s, s.diagnostics <+: (recordLayout env fuel name s).2.diagnostics := by
  refine recordLayout_induction
    (fun _ layout => ∀ n s, s.diagnostics <+: (layout n s).2.diagnostics)
    (fun fuel inner name s => ?_) fuel
  have step : LayoutStep env fuel name s (recordLayout env fuel name s) :=
    recordLayout_step fuel name s
  generalize recordLayout env fuel name s = result at step ⊢
  cases step with
  | unknown => exact List.prefix_refl _
  | known => exact List.prefix_refl _
  | recursive => exact List.prefix_append _ _
  | failed node fewer more found fresh idle fields ok refs s₂ resolved
  | laidOut node fewer more found fresh idle fields refs s₂ resolved =>
    have grown : s.diagnostics <+: s₂.diagnostics :=
      fields_preserve (fun s' => s.diagnostics <+: s'.diagnostics)
        (fun _ _ _ _ grown => grown.trans (List.prefix_append _ _)) (fun _ => True)
        (fun n s' _ grown => grown.trans (inner fewer more n s')) (fun _ _ _ _ => trivial)
        resolved (List.prefix_refl _)
    exact grown

/-- A struct bound stays bound. -/
theorem recordLayout_keeps_bound (fuel : Nat) :
    ∀ name s k, (s.layouts.lookup k).isSome →
      ((recordLayout env fuel name s).2.layouts.lookup k).isSome := by
  refine recordLayout_induction (fun _ layout => ∀ n s k, (s.layouts.lookup k).isSome →
      ((layout n s).2.layouts.lookup k).isSome) (fun fuel inner name s k bound => ?_) fuel
  have step : LayoutStep env fuel name s (recordLayout env fuel name s) :=
    recordLayout_step fuel name s
  generalize recordLayout env fuel name s = result at step ⊢
  cases step with
  | unknown => exact bound
  | known => exact bound
  | recursive => by_cases here : k = name <;> simp [here, bound]
  | failed node fewer more found fresh idle fields ok refs s₂ resolved
  | laidOut node fewer more found fresh idle fields refs s₂ resolved =>
    have kept : (s₂.layouts.lookup k).isSome :=
      fields_preserve (fun s' => (s'.layouts.lookup k).isSome) (fun _ _ _ _ => id)
        (fun _ => True) (fun n s' _ => inner fewer more n s' k) (fun _ _ _ _ => trivial)
        resolved bound
    by_cases here : k = name <;> simp [here, kept]

/-- A struct named without arguments is laid out by `layout`, which alone moves the state. -/
theorem resolveName_record (distinct : env.description.Distinct) {layout : Layout}
    {p : Position} {r : Refs} (record : name ∈ env.description.recordNames) :
    (resolveName env layout name p r s).2.2 = (layout name s).2 := by
  have notBuiltin : name ∉ builtinTypes :=
    distinct.notBuiltin name (List.mem_append_right _ record)
  have found : (findRecord env name).isSome := findRecord_isSome_iff.mpr record
  fun_cases resolveName env layout name p r s with
  | case1 integer =>
    exact absurd (List.mem_append_left ["const", "flags", "ptr"]
      (List.contains_iff_mem.mp integer) :) notBuiltin
  | case2 _ keyword =>
    exact absurd (List.mem_append_right ["int8", "int16", "int32", "int64", "intptr"]
      (List.contains_iff_mem.mp keyword) :) notBuiltin
  | case3 _ _ resource => simp [findRecord_of_resource distinct resource] at found
  | case4 _ _ _ _ size align s₁ laid => simp [laid]
  | case5 _ _ _ _ s₁ laid => simp [laid]
  | case6 _ _ _ unfound => exact absurd found unfound

/-- After the fields of a struct are resolved, every struct one of them has as its bare type
is bound. -/
theorem resolveFields_binds (distinct : env.description.Distinct) (fuel : Nat)
    (fields : List Description.Field) (r : Refs) (s : State) :
    ∀ f ∈ fields, ∀ b, f.type = .ident b → b ∈ env.description.recordNames →
      ((resolveFields env (recordLayout env fuel) fields r s).2.2.layouts.lookup b).isSome := by
  induction fields generalizing r s with
  | nil => simp
  | cons f rest ih =>
    intro g member b bare record
    rcases resolved : resolve env (recordLayout env fuel) f.type f.position r s with ⟨t, r₁, s₁⟩
    have later : (resolveFields env (recordLayout env fuel) (f :: rest) r s).2.2 =
        (resolveFields env (recordLayout env fuel) rest r₁ s₁).2.2 := by
      simp only [resolveFields, resolved]
      split <;> rfl
    rw [later]
    rcases List.mem_cons.mp member with rfl | inRest
    · -- the field itself lays the struct out, and the fields after it keep it bound
      have laid : s₁ = (recordLayout env fuel b s).2 := by
        have named : (resolve env (recordLayout env fuel) g.type g.position r s).2.2 =
            (recordLayout env fuel b s).2 := by
          rw [bare, resolve.eq_1]
          exact resolveName_record distinct record
        rw [resolved] at named
        exact named
      have bound : (s₁.layouts.lookup b).isSome := by
        rw [laid]
        exact recordLayout_binds (findRecord_isSome_iff.mpr record)
      exact resolveFields_preserves (fun s' => (s'.layouts.lookup b).isSome) (fun _ _ _ _ => id)
        (fun _ => True) (fun n s' _ kept => recordLayout_keeps_bound fuel n s' b kept) rest
        (fun _ _ _ _ => trivial) bound
    · exact ih r₁ s₁ g inRest b bare record

end Frame

section OnCycle

/-- Every struct reported as recursive lies on a cycle of embeddings. -/
def RecursionOnCycle (env : Env) (s : State) : Prop :=
  ∀ dg ∈ s.diagnostics, ∀ x, dg.message = recursionMessage x →
    TransGen env.description.Embeds x x

theorem RecursionOnCycle.report (onCycle : RecursionOnCycle env s) (p : Position) {m : String}
    (other : NotRecursion m) : RecursionOnCycle env (s.report p m) := by
  intro dg member x named
  rcases List.mem_append.mp member with old | new
  · exact onCycle dg old x named
  · rw [List.mem_singleton.mp new] at named
    exact absurd named (other x)

theorem RecursionOnCycle.recursive (onCycle : RecursionOnCycle env s) (p : Position)
    (cycle : TransGen env.description.Embeds name name) :
    RecursionOnCycle env (s.report p (recursionMessage name)) := by
  intro dg member x named
  rcases List.mem_append.mp member with old | new
  · exact onCycle dg old x named
  · rw [List.mem_singleton.mp new] at named
    obtain rfl := recursionMessage_inj.mp named
    exact cycle

/-- The structs in progress when a struct is asked for: without repeats, each one that
reaches it through embeddings, and as many as the fuel spent. -/
structure Pending (env : Env) (fuel : Nat) (name : String) (s : State) : Prop where
  reaches : ∀ x ∈ s.inProgress, TransGen env.description.Embeds x name
  nodup : s.inProgress.Nodup
  records : ∀ x ∈ s.inProgress, x ∈ env.description.recordNames
  spent : s.inProgress.length + fuel = env.description.records.length

theorem Pending.start (idle : s.inProgress = []) (name : String) :
    Pending env env.description.records.length name s where
  reaches := by simp [idle]
  nodup := by simp [idle]
  records := by simp [idle]
  spent := by simp [idle]

/-- A struct asked for once the fuel is spent is in progress: with the fuel spent every struct
is, the one asked for included. -/
theorem Pending.busy {fuel : Nat} (pending : Pending env fuel name s)
    (record : name ∈ env.description.recordNames) (stuck : fuel = 0 ∨ name ∈ s.inProgress) :
    name ∈ s.inProgress := by
  rcases stuck with spent | busy
  · have covered : s.inProgress.Subperm env.description.recordNames :=
      pending.nodup.subperm pending.records
    have full : env.description.recordNames.length ≤ s.inProgress.length := by
      have counted := pending.spent
      simp only [recordNames, List.length_map]
      omega
    exact (covered.perm_of_length_le full).mem_iff.mpr record
  · exact busy

/-- A struct met again, or asked for once the fuel is spent, lies on a cycle. -/
theorem Pending.cycle {fuel : Nat} (pending : Pending env fuel name s)
    (record : name ∈ env.description.recordNames) (stuck : fuel = 0 ∨ name ∈ s.inProgress) :
    TransGen env.description.Embeds name name :=
  pending.reaches name (pending.busy record stuck)

/-- Entering a struct and asking for one it embeds keeps the structs in progress pending. -/
theorem Pending.enter {fewer : Nat} {n : String} (pending : Pending env (fewer + 1) name s)
    (idle : name ∉ s.inProgress) (record : name ∈ env.description.recordNames)
    (edge : env.description.Embeds name n) (entered : s'.inProgress = s.inProgress ++ [name]) :
    Pending env fewer n s' where
  reaches x member := by
    rw [entered] at member
    rcases List.mem_append.mp member with old | new
    · exact (pending.reaches x old).tail edge
    · rw [List.mem_singleton.mp new]
      exact .single edge
  nodup := by
    rw [entered, List.nodup_append]
    refine ⟨pending.nodup, List.nodup_singleton name, fun a old b new same => idle ?_⟩
    rw [List.mem_singleton.mp new] at same
    exact same ▸ old
  records x member := by
    rw [entered] at member
    rcases List.mem_append.mp member with old | new
    · exact pending.records x old
    · rw [List.mem_singleton.mp new]
      exact record
  spent := by
    have counted := pending.spent
    rw [entered, List.length_append, List.length_singleton]
    omega

/-- Laying out a pending struct reports only structs on a cycle. -/
theorem recordLayout_onCycle (fuel : Nat) :
    ∀ name s, Pending env fuel name s → RecursionOnCycle env s →
      RecursionOnCycle env (recordLayout env fuel name s).2 := by
  refine recordLayout_induction (fun fuel layout => ∀ n s, Pending env fuel n s →
      RecursionOnCycle env s → RecursionOnCycle env (layout n s).2)
    (fun fuel inner name s pending onCycle => ?_) fuel
  have step : LayoutStep env fuel name s (recordLayout env fuel name s) :=
    recordLayout_step fuel name s
  generalize recordLayout env fuel name s = result at step ⊢
  cases step with
  | unknown => exact onCycle
  | known => exact onCycle
  | recursive node found fresh stuck =>
    have record := findRecord_isSome_iff.mp (Option.isSome_of_eq_some found)
    exact onCycle.recursive node.position (pending.cycle record stuck)
  | failed node fewer more found fresh idle fields ok refs s₂ resolved
  | laidOut node fewer more found fresh idle fields refs s₂ resolved =>
    subst more
    have record := findRecord_isSome_iff.mp (Option.isSome_of_eq_some found)
    -- the structs laid out from inside this one are those it embeds, pending in turn
    have entering : ∀ n s', (n ∈ env.description.recordNames → env.description.Embeds name n) →
        s'.inProgress = s.inProgress ++ [name] ∧ RecursionOnCycle env s' →
        (recordLayout env fewer n s').2.inProgress = s.inProgress ++ [name] ∧
          RecursionOnCycle env (recordLayout env fewer n s').2 := by
      intro n s' edge ⟨entered, onCycle'⟩
      by_cases known : n ∈ env.description.recordNames
      · exact ⟨(recordLayout_inProgress fewer n s').trans entered,
          inner fewer rfl n s' (pending.enter idle record (edge known) entered) onCycle'⟩
      · have unknown : findRecord env n = none := by
          simpa [← findRecord_isSome_iff] using known
        rw [recordLayout_of_unknown s' unknown]
        exact ⟨entered, onCycle'⟩
    have kept : s₂.inProgress = s.inProgress ++ [name] ∧ RecursionOnCycle env s₂ :=
      fields_preserve (fun s' => s'.inProgress = s.inProgress ++ [name] ∧ RecursionOnCycle env s')
        (fun _ p _ other ⟨entered, onCycle'⟩ => ⟨entered, onCycle'.report p other⟩) _ entering
        (fun _ member _ bare record => embeds_of_field found member bare record) resolved
        ⟨rfl, onCycle⟩
    exact kept.2

end OnCycle

section Reported

/-- Some struct has been reported as embedding itself. -/
def RecursionReported (s : State) : Prop :=
  ∃ dg ∈ s.diagnostics, ∃ x, dg.message = recursionMessage x

theorem RecursionReported.mono (reported : RecursionReported s)
    (grown : s.diagnostics <+: s'.diagnostics) : RecursionReported s' := by
  obtain ⟨dg, member, x, named⟩ := reported
  exact ⟨dg, grown.subset member, x, named⟩

/-- The bound structs embed only bound structs and lie on no cycle, and none in progress is
bound. -/
structure LaidOutAcyclic (env : Env) (s : State) : Prop where
  idle : ∀ a ∈ s.inProgress, s.layouts.lookup a = none
  closed : ∀ a b, (s.layouts.lookup a).isSome → env.description.Embeds a b →
    (s.layouts.lookup b).isSome
  acyclic : ∀ a, (s.layouts.lookup a).isSome → ¬TransGen env.description.Embeds a a

/-- Either a struct was reported as recursive, or the bound structs are acyclic. -/
def Guarded (env : Env) (s : State) : Prop := RecursionReported s ∨ LaidOutAcyclic env s

theorem isSome_lookup_bind {α : Type} {m : List (String × α)} {k k' : String} {v : α}
    (bound : (m.lookup k').isSome) : ((bind m k v).lookup k').isSome := by
  by_cases here : k' = k <;> simp [here, bound]

theorem LaidOutAcyclic.reaches_bound (acyclic : LaidOutAcyclic env s) {a b : String}
    (bound : (s.layouts.lookup a).isSome) (path : ReflTransGen env.description.Embeds a b) :
    (s.layouts.lookup b).isSome := by
  induction path with
  | refl => exact bound
  | tail _ edge ih => exact acyclic.closed _ _ ih edge

theorem LaidOutAcyclic.enter (acyclic : LaidOutAcyclic env s)
    (fresh : s.layouts.lookup name = none) :
    LaidOutAcyclic env { s with inProgress := s.inProgress ++ [name] } where
  idle a member := by
    rcases List.mem_append.mp member with old | new
    · exact acyclic.idle a old
    · rw [List.mem_singleton.mp new]
      exact fresh
  closed := acyclic.closed
  acyclic := acyclic.acyclic

/-- Binding a struct in progress once every struct it embeds is bound keeps the bound structs
closed and acyclic: a cycle through it would run through a struct bound before it, and every
struct such a struct reaches was bound before it too, the struct itself included. -/
theorem LaidOutAcyclic.close {v : Option (Nat × Nat)} (acyclic : LaidOutAcyclic env s₂)
    (busy : name ∈ s₂.inProgress)
    (embedded : ∀ b, env.description.Embeds name b → (s₂.layouts.lookup b).isSome)
    (inProgress : s'.inProgress = s₂.inProgress.filter (· != name))
    (layouts : s'.layouts = bind s₂.layouts name v) : LaidOutAcyclic env s' where
  idle a member := by
    rw [inProgress, List.mem_filter] at member
    have other : a ≠ name := by simpa using member.2
    rw [layouts, lookup_bind, if_neg other]
    exact acyclic.idle a member.1
  closed a b bound edge := by
    rw [layouts] at bound ⊢
    by_cases here : a = name
    · subst here
      exact isSome_lookup_bind (embedded b edge)
    · rw [lookup_bind, if_neg here] at bound
      exact isSome_lookup_bind (acyclic.closed a b bound edge)
  acyclic a bound cycle := by
    rw [layouts] at bound
    by_cases here : a = name
    · subst here
      obtain ⟨b, edge, back⟩ := TransGen.head'_iff.mp cycle
      have boundAgain := acyclic.reaches_bound (embedded b edge) back
      rw [acyclic.idle a busy] at boundAgain
      exact absurd boundAgain (by simp)
    · rw [lookup_bind, if_neg here] at bound
      exact acyclic.acyclic a bound cycle

theorem Guarded.congr (guarded : Guarded env s) (diagnostics : s'.diagnostics = s.diagnostics)
    (inProgress : s'.inProgress = s.inProgress) (layouts : s'.layouts = s.layouts) :
    Guarded env s' := by
  rcases guarded with ⟨dg, member, x, named⟩ | acyclic
  · exact .inl ⟨dg, diagnostics ▸ member, x, named⟩
  · refine .inr ⟨fun a member => ?_, fun a b => ?_, fun a => ?_⟩
    · rw [inProgress] at member
      rw [layouts]
      exact acyclic.idle a member
    · rw [layouts]
      exact acyclic.closed a b
    · rw [layouts]
      exact acyclic.acyclic a

theorem Guarded.report (guarded : Guarded env s) (p : Position) (m : String) :
    Guarded env (s.report p m) := by
  rcases guarded with reported | acyclic
  · exact .inl (reported.mono (List.prefix_append _ _))
  · exact .inr ⟨acyclic.idle, acyclic.closed, acyclic.acyclic⟩

/-- Resolving the fields of a fresh struct in progress leaves either a report of recursion, or
acyclic bound structs, the struct still in progress and every struct it embeds bound. -/
theorem resolveFields_guarded (distinct : env.description.Distinct) {fewer : Nat}
    (inner : ∀ n s, Guarded env s → Guarded env (recordLayout env fewer n s).2)
    (found : findRecord env name = some node) (fresh : s.layouts.lookup name = none)
    {result : List Field × Bool} {refs : Refs}
    (resolved : resolveFields env (recordLayout env fewer) node.fields {}
      { s with inProgress := s.inProgress ++ [name] } = (result, refs, s₂))
    (guarded : Guarded env s) :
    RecursionReported s₂ ∨ LaidOutAcyclic env s₂ ∧ name ∈ s₂.inProgress ∧
      ∀ b, env.description.Embeds name b → (s₂.layouts.lookup b).isSome := by
  have entered : s₂.inProgress = s.inProgress ++ [name] :=
    fields_preserve (fun s' => s'.inProgress = s.inProgress ++ [name]) (fun _ _ _ _ => id)
      (fun _ => True) (fun n s' _ same => (recordLayout_inProgress fewer n s').trans same)
      (fun _ _ _ _ => trivial) resolved rfl
  have guarded₂ : Guarded env s₂ :=
    fields_preserve (Guarded env) (fun _ p m _ kept => kept.report p m) (fun _ => True)
      (fun n s' _ kept => inner n s' kept) (fun _ _ _ _ => trivial) resolved
      (guarded.imp id (·.enter fresh))
  have embedded : ∀ b, env.description.Embeds name b → (s₂.layouts.lookup b).isSome := by
    intro b edge
    obtain ⟨f, member, bare, record⟩ := field_of_embeds distinct found edge
    have bound := resolveFields_binds distinct fewer node.fields {}
      { s with inProgress := s.inProgress ++ [name] } f member b bare record
    rwa [resolved] at bound
  exact guarded₂.imp id fun acyclic => ⟨acyclic, by simp [entered], embedded⟩

/-- Laying out a struct keeps the bound structs acyclic unless it reports a recursion. -/
theorem recordLayout_guarded (distinct : env.description.Distinct) (fuel : Nat) :
    ∀ name s, Guarded env s → Guarded env (recordLayout env fuel name s).2 := by
  refine recordLayout_induction
    (fun _ layout => ∀ n s, Guarded env s → Guarded env (layout n s).2)
    (fun fuel inner name s guarded => ?_) fuel
  have step : LayoutStep env fuel name s (recordLayout env fuel name s) :=
    recordLayout_step fuel name s
  generalize recordLayout env fuel name s = result at step ⊢
  cases step with
  | unknown => exact guarded
  | known => exact guarded
  | recursive node found fresh stuck =>
    exact .inl ⟨⟨node.position, recursionMessage name⟩, by simp, name, rfl⟩
  | failed node fewer more found fresh idle fields ok refs s₂ resolved
  | laidOut node fewer more found fresh idle fields refs s₂ resolved =>
    rcases resolveFields_guarded distinct (inner fewer more) found fresh resolved guarded with
      reported | ⟨acyclic, busy, embedded⟩
    · exact .inl reported
    · exact .inr (acyclic.close busy embedded rfl rfl)

end Reported

section Compiling

/-- Compiling reports only structs on a cycle of embeddings. -/
theorem compileAll_onCycle : RecursionOnCycle env (compileAll env).2 := by
  have kept : (compileAll env).2.inProgress = [] ∧ RecursionOnCycle env (compileAll env).2 :=
    compileAll_preserves (fun s => s.inProgress = [] ∧ RecursionOnCycle env s)
      (fun _ p _ other ⟨idle, onCycle⟩ => ⟨idle, onCycle.report p other⟩)
      (fun _ _ ⟨idle, onCycle⟩ => ⟨idle, onCycle⟩)
      (fun n s ⟨idle, onCycle⟩ => ⟨(recordLayout_inProgress _ n s).trans idle,
        recordLayout_onCycle _ n s (Pending.start idle n) onCycle⟩)
      (fun _ _ ⟨idle, onCycle⟩ => ⟨idle, onCycle⟩) ⟨rfl, by simp [RecursionOnCycle]⟩
  exact kept.2

/-- Compiling descriptions with a cycle of embeddings reports a recursive struct: once every
struct is laid out, none of them can lie on an acyclic set of bound structs. -/
theorem compileAll_reports_cycle (distinct : env.description.Distinct)
    (wf : env.description.WellFormed) {x : String}
    (cycle : TransGen env.description.Embeds x x) : RecursionReported (compileAll env).2 := by
  let fuel := env.description.records.length
  have sound : LayoutSound env (recordLayout env fuel) := recordLayout_sound distinct wf fuel
  let s₁ := (compileResources env env.description.resources {}).2.2
  let s₂ := layOutRecords env fuel env.description.records s₁
  have guarded₁ : Guarded env s₁ :=
    compileResources_preserves (Guarded env) (fun _ p m _ guarded => guarded.report p m)
      (fun _ _ guarded => guarded.congr rfl rfl rfl) _ _ (.inr ⟨by simp, by simp, by simp⟩)
  have guarded₂ : Guarded env s₂ :=
    layOutRecords_preserves (Guarded env) (fun n s => recordLayout_guarded distinct fuel n s) _
      guarded₁
  -- every struct is bound once laid out, the first one of the cycle included
  have bound : (s₂.layouts.lookup x).isSome := by
    obtain ⟨b, edge, -⟩ := TransGen.head'_iff.mp cycle
    obtain ⟨r, member, named⟩ := List.mem_map.mp edge.source_mem
    subst named
    exact layOutRecords_binds sound _ compileResources_sound r member
      (findRecord_isSome_iff.mpr edge.source_mem)
  have reported₂ : RecursionReported s₂ :=
    guarded₂.resolve_right fun acyclic => acyclic.acyclic x bound cycle
  exact compileAll_after_layout RecursionReported
    (fun _ _ _ _ reported => reported.mono (List.prefix_append _ _)) (fun _ _ reported => reported)
    (fun n s reported => reported.mono (recordLayout_diagnostics fuel n s)) reported₂

end Compiling

end Compile

open Description Compile

variable {d : Description} {consts : ConstTable} {target : Target}

theorem compile_eq_error {ds : List Diagnostic} :
    d.compile consts target = .error ds ↔
      (compileAll ⟨d, consts, target⟩).2.diagnostics ≠ [] ∧
        (compileAll ⟨d, consts, target⟩).2.diagnostics = ds := by
  unfold Description.compile
  rcases compileAll ⟨d, consts, target⟩ with ⟨program, state⟩
  by_cases quiet : state.diagnostics.isEmpty
  · simp [List.isEmpty_iff.mp quiet]
  · have owed : state.diagnostics ≠ [] := by simpa using quiet
    simp [quiet, owed]

/-- Recursion is reported exactly for embedding cycles: descriptions read without error
compile with a report that a struct embeds itself exactly when some struct reaches itself
through bare fields, and every struct so reported lies on such a cycle. A struct that reaches
itself only through pointers is never reported. -/
theorem compile_reports_recursion_iff_cycle {t : FileTree} {cwd : Location} {pattern : Path}
    (read : readPattern t cwd pattern = .ok d) (consts : ConstTable) (target : Target) :
    ((∃ ds, d.compile consts target = .error ds ∧ ∃ dg ∈ ds, ∃ x, dg.message = recursionMessage x) ↔
        ∃ x, TransGen d.Embeds x x) ∧
      ∀ ds, d.compile consts target = .error ds →
        ∀ dg ∈ ds, ∀ x, dg.message = recursionMessage x → TransGen d.Embeds x x := by
  obtain ⟨distinct, wf⟩ := readPattern_spec read
  have onCycle : RecursionOnCycle ⟨d, consts, target⟩ (compileAll ⟨d, consts, target⟩).2 :=
    compileAll_onCycle
  have reportedOnCycle : ∀ ds, d.compile consts target = .error ds →
      ∀ dg ∈ ds, ∀ x, dg.message = recursionMessage x → TransGen d.Embeds x x := by
    intro ds failed dg member x named
    obtain ⟨-, same⟩ := compile_eq_error.mp failed
    exact onCycle dg (same ▸ member) x named
  refine ⟨⟨fun ⟨ds, failed, dg, member, x, named⟩ =>
    ⟨x, reportedOnCycle ds failed dg member x named⟩, fun ⟨x, cycle⟩ => ?_⟩, reportedOnCycle⟩
  have reported : RecursionReported (compileAll ⟨d, consts, target⟩).2 :=
    compileAll_reports_cycle distinct wf cycle
  obtain ⟨dg, member, y, named⟩ := reported
  have owed : (compileAll ⟨d, consts, target⟩).2.diagnostics ≠ [] := List.ne_nil_of_mem member
  exact ⟨_, compile_eq_error.mpr ⟨owed, rfl⟩, dg, member, y, named⟩

/-- A file whose only struct has a field of its own type reads as a struct embedding itself,
which compiling reports. -/
theorem self_embedding_reported :
    ∃ d, readPattern ⟨[(["d"], .directory), (["d", "e"],
        .file "[[struct]]\nname = \"a\"\nfields = [\x7b name = \"x\", type = \"a\" \x7d]\n")]⟩
        [] ⟨"d/*"⟩ = .ok d ∧ TransGen d.Embeds "a" "a" ∧
      ∃ ds, d.compile {} (Target.make "linux" "amd64" 8 []) = .error ds ∧
        ∃ dg ∈ ds, ∃ x, dg.message = recursionMessage x := by
  let field : Description.Field := ⟨⟨"d/e", 3, 32⟩, "x", .ident "a"⟩
  let record : Description.Record := ⟨⟨"d/e", 2, 8⟩, "a", false, [field]⟩
  have read : readPattern ⟨[(["d"], .directory), (["d", "e"],
      .file "[[struct]]\nname = \"a\"\nfields = [\x7b name = \"x\", type = \"a\" \x7d]\n")]⟩
      [] ⟨"d/*"⟩ = .ok { files := ["d/e"], records := [record] } := by cbv
  have cycle : TransGen (Description.Embeds { files := ["d/e"], records := [record] }) "a" "a" :=
    .single ⟨record, List.mem_singleton_self _, rfl, field, List.mem_singleton_self _, rfl,
      List.mem_singleton_self _⟩
  exact ⟨_, read, cycle,
    (compile_reports_recursion_iff_cycle read {} (Target.make "linux" "amd64" 8 [])).1.mpr
      ⟨"a", cycle⟩⟩

end SyscallTables
