import SyscallTables.Proofs.Compile.Resolve

namespace SyscallTables.Compile

open Description

/-! Laying out structs. At every fuel `recordLayout` is a sound way of laying out structs: it
steps as resolving does, keeps states sound, and leaves a diagnostic for every struct it does
not lay out, whether it embeds itself or has a field that does not resolve. A struct asked for
is bound afterwards, and a struct laid out has its description. -/

variable {env : Env} {s s₂ final : State} {name : String}

/-- What laying out a struct can do: nothing, for a name that is no struct or a struct already
bound; report a struct met again (or once the fuel is spent) and mark it failed; or resolve its
fields with the fuel below while it is in progress, then bind it, failed when a field did not
resolve or it was marked failed meanwhile, and otherwise laid out with its description. -/
inductive LayoutStep (env : Env) (fuel : Nat) (name : String) (s : State) :
    Option (Nat × Nat) × State → Prop
  | unknown (unknown : findRecord env name = none) : LayoutStep env fuel name s (none, s)
  | known (node : Record) (found : findRecord env name = some node) (l : Option (Nat × Nat))
      (laid : s.layouts.lookup name = some l) : LayoutStep env fuel name s (l, s)
  | recursive (node : Record) (found : findRecord env name = some node)
      (fresh : s.layouts.lookup name = none) (stuck : fuel = 0 ∨ name ∈ s.inProgress) :
      LayoutStep env fuel name s
        (none, { s.report node.position (recursionMessage name) with
                 layouts := bind s.layouts name none })
  | failed (node : Record) (fewer : Nat) (more : fuel = fewer + 1)
      (found : findRecord env name = some node) (fresh : s.layouts.lookup name = none)
      (idle : name ∉ s.inProgress) (fields : List Field) (ok : Bool) (refs : Refs) (s₂ : State)
      (resolved : resolveFields env (recordLayout env fewer) node.fields {}
        { s with inProgress := s.inProgress ++ [name] } = ((fields, ok), refs, s₂))
      (failing : ok = false ∨ s₂.layouts.lookup name = some none) :
      LayoutStep env fuel name s
        (none, { s₂ with inProgress := s₂.inProgress.filter (· != name),
                         recordRefs := bind s₂.recordRefs name refs,
                         layouts := bind s₂.layouts name none })
  | laidOut (node : Record) (fewer : Nat) (more : fuel = fewer + 1)
      (found : findRecord env name = some node) (fresh : s.layouts.lookup name = none)
      (idle : name ∉ s.inProgress) (fields : List Field) (refs : Refs) (s₂ : State)
      (resolved : resolveFields env (recordLayout env fewer) node.fields {}
        { s with inProgress := s.inProgress ++ [name] } = ((fields, true), refs, s₂))
      (passing : s₂.layouts.lookup name ≠ some none) (size align : Nat)
      (sized : layoutOf node.union fields = (size, align)) :
      LayoutStep env fuel name s
        (some (size, align), { s₂ with inProgress := s₂.inProgress.filter (· != name),
                                       recordRefs := bind s₂.recordRefs name refs,
                                       layouts := bind s₂.layouts name (some (size, align)),
                                       descs := bind s₂.descs name
                                         ⟨name, node.union, size, align, fields⟩ })

theorem recordLayout_step (fuel : Nat) (name : String) (s : State) :
    LayoutStep env fuel name s (recordLayout env fuel name s) := by
  fun_cases recordLayout env fuel name s with
  | case1 =>
    rename_i unknown
    exact .unknown unknown
  | case2 =>
    rename_i node l found laid
    exact .known node found l laid
  | case3 =>
    rename_i node found fresh _
    exact .recursive node found fresh (.inl rfl)
  | case4 =>
    rename_i node fewer found fresh _ busy
    exact .recursive node found fresh (.inr (by simpa using busy))
  | case5 =>
    rename_i node fewer fields ok refs s₂ found s₃ failing fresh idle s₁ resolved
    refine .failed node fewer rfl found fresh (by simpa using idle) fields ok refs s₂ resolved ?_
    simpa using failing
  | case6 =>
    rename_i node fewer fields ok refs s₂ size align sized found s₃ passing desc fresh idle s₁
      resolved
    simp only [Bool.or_eq_true, Bool.not_eq_true', not_or, beq_iff_eq] at passing
    obtain ⟨allResolved, notFailed⟩ := passing
    obtain rfl : ok = true := by simpa using allResolved
    exact .laidOut node fewer rfl found fresh (by simpa using idle) fields refs s₂ resolved
      notFailed size align sized

/-- Binding, at the end of a walk, a struct that was fresh when the walk began leaves every
settled name as it was. -/
theorem Step.frame (step : Step env s s₂) (fresh : s.layouts.lookup name = none)
    (found : (findRecord env name).isSome)
    (diagnostics : final.diagnostics = s₂.diagnostics)
    (resourceTypes : final.resourceTypes = s₂.resourceTypes)
    (layouts : ∀ k, k ≠ name → final.layouts.lookup k = s₂.layouts.lookup k)
    (recordRefs : ∀ k, k ≠ name → final.recordRefs.lookup k = s₂.recordRefs.lookup k) :
    Step env s final where
  diagnostics := diagnostics ▸ step.diagnostics
  resourceTypes := resourceTypes.trans step.resourceTypes
  settled k settledHere := by
    have other : k ≠ name := by
      rintro rfl
      rcases settledHere with bound | unknown
      · simp [fresh] at bound
      · simp [unknown] at found
    obtain ⟨sameLayout, sameRefs⟩ := step.settled k settledHere
    exact ⟨(layouts k other).trans sameLayout, (recordRefs k other).trans sameRefs⟩

/-- A state that differs from a sound one only at one struct is sound when that struct owes
what soundness asks of it. -/
theorem Sound.frame (hs : Sound env s₂) (name : String)
    (diagnostics : final.diagnostics = s₂.diagnostics)
    (resourceTypes : final.resourceTypes = s₂.resourceTypes)
    (layouts : ∀ k, k ≠ name → final.layouts.lookup k = s₂.layouts.lookup k)
    (recordRefs : ∀ k, k ≠ name → final.recordRefs.lookup k = s₂.recordRefs.lookup k)
    (failedHere : final.layouts.lookup name = some none → final.diagnostics ≠ [])
    (laidHere : ∀ l, final.layouts.lookup name = some (some l) → ∃ node refs,
      findRecord env name = some node ∧ final.recordRefs.lookup name = some refs ∧
        Refs.Adds env {} refs node.constants node.typeNames) :
    Sound env final where
  resources n resource := by
    rw [resourceTypes, diagnostics]
    exact hs.resources n resource
  failed n failed := by
    by_cases here : n = name
    · subst here
      exact failedHere failed
    · rw [layouts n here] at failed
      rw [diagnostics]
      exact hs.failed n failed
  laidOut n l laid := by
    by_cases here : n = name
    · subst here
      exact laidHere l laid
    · rw [layouts n here] at laid
      rw [recordRefs n here]
      exact hs.laidOut n l laid

/-- Every struct laid out has its description, under its own name. -/
def Described (s : State) : Prop :=
  ∀ k l, s.layouts.lookup k = some (some l) → ∃ desc, s.descs.lookup k = some desc ∧ desc.name = k

theorem Described.report (described : Described s) (p : Position) (m : String) :
    Described (s.report p m) := described

theorem Step.opened (s : State) (inProgress : List String) :
    Step env s { s with inProgress } :=
  ⟨List.prefix_refl _, rfl, fun _ _ => ⟨rfl, rfl⟩⟩

/-- A struct found to embed itself is reported and marked failed. -/
theorem Reached.recursive (hs : Sound env s) (fresh : s.layouts.lookup name = none)
    (found : (findRecord env name).isSome) (p : Position) (m : String) :
    Reached env s { s.report p m with layouts := bind (s.report p m).layouts name none } := by
  have reported : Sound env (s.report p m) := hs.report p m
  refine ⟨Step.frame (Step.report s p m) fresh found rfl rfl ?_ (fun _ _ => rfl),
    Sound.frame reported name rfl rfl ?_ (fun _ _ => rfl) (fun _ => by simp) ?_⟩
  · intro k other
    simp [other]
  · intro k other
    simp [other]
  · intro l laid
    simp at laid

/-- Closing a struct whose fields were resolved while it was in progress: it leaves the list
in progress and is bound, with the references of its fields. The walk from `s` reaches the
closed state when a failed struct has left a diagnostic and a laid-out one adds its
references. -/
theorem Reached.close {node : Record} {refs : Refs} {layout : Option (Nat × Nat)}
    {descs : List (String × RecordDesc)}
    (reached : Reached env { s with inProgress := s.inProgress ++ [name] } s₂)
    (fresh : s.layouts.lookup name = none) (found : findRecord env name = some node)
    (failedHere : layout = none → s₂.diagnostics ≠ [])
    (laidHere : ∀ l, layout = some l → Refs.Adds env {} refs node.constants node.typeNames) :
    Reached env s { s₂ with inProgress := s₂.inProgress.filter (· != name),
                            recordRefs := bind s₂.recordRefs name refs,
                            layouts := bind s₂.layouts name layout, descs := descs } := by
  refine ⟨Step.frame ((Step.opened s _).trans reached.step) fresh (by simp [found]) rfl rfl ?_ ?_,
    Sound.frame reached.sound name rfl rfl ?_ ?_ ?_ ?_⟩
  · intro k other
    simp [other]
  · intro k other
    simp [other]
  · intro k other
    simp [other]
  · intro k other
    simp [other]
  · intro failed
    exact failedHere (by simpa using failed)
  · intro l laid
    exact ⟨node, refs, found, by simp, laidHere l (by simpa using laid)⟩

/-- The layout of a struct: a struct met again while its fields are resolved, or once the fuel
is spent, is reported and fails; otherwise its fields are resolved with one less fuel. -/
theorem recordLayout_reached (distinct : env.description.Distinct)
    (wf : env.description.WellFormed) {fuel : Nat}
    (inner : ∀ fewer, fuel = fewer + 1 → LayoutSound env (recordLayout env fewer))
    (name : String) (hs : Sound env s) :
    Reached env s (recordLayout env fuel name s).2 ∧
      ((findRecord env name).isSome → (recordLayout env fuel name s).1 = none →
        (recordLayout env fuel name s).2.diagnostics ≠ []) := by
  have step : LayoutStep env fuel name s (recordLayout env fuel name s) :=
    recordLayout_step fuel name s
  generalize recordLayout env fuel name s = result at step ⊢
  cases step with
  | unknown unknown => exact ⟨Reached.start hs, by simp [unknown]⟩
  | known node found l laid =>
    refine ⟨Reached.start hs, fun _ failed => hs.failed name ?_⟩
    obtain rfl : l = none := failed
    exact laid
  | recursive node found fresh =>
    exact ⟨Reached.recursive hs fresh (by simp [found]) _ _, fun _ _ => by simp⟩
  | failed node fewer more found fresh _ fields ok refs s₂ resolved failing =>
    have sound := inner fewer more
    have opened : Sound env { s with inProgress := s.inProgress ++ [name] } :=
      ⟨hs.resources, hs.failed, hs.laidOut⟩
    have reached : Reached env _ (resolveFields env (recordLayout env fewer) node.fields {}
        { s with inProgress := s.inProgress ++ [name] }).2.2 :=
      resolveFields_step sound node.fields opened
    rw [resolved] at reached
    -- a field that did not resolve was reported; a struct failed meanwhile was reported then
    have owed : s₂.diagnostics ≠ [] := by
      rcases failing with unresolved | failedBefore
      · have owedThen : (resolveFields env (recordLayout env fewer) node.fields {}
            { s with inProgress := s.inProgress ++ [name] }).2.2.diagnostics ≠ [] :=
          resolveFields_fails sound (wf.fields node (findRecord_spec found).1) opened
            (by simp [resolved, unresolved])
        simpa [resolved] using owedThen
      · exact reached.sound.failed name failedBefore
    exact ⟨reached.close fresh found (fun _ => owed) (fun _ laid => by cases laid), fun _ _ => owed⟩
  | laidOut node fewer more found fresh _ fields refs s₂ resolved passing size align sized =>
    have sound := inner fewer more
    have opened : Sound env { s with inProgress := s.inProgress ++ [name] } :=
      ⟨hs.resources, hs.failed, hs.laidOut⟩
    have reached : Reached env _ (resolveFields env (recordLayout env fewer) node.fields {}
        { s with inProgress := s.inProgress ++ [name] }).2.2 :=
      resolveFields_step sound node.fields opened
    rw [resolved] at reached
    have added := resolveFields_adds distinct (by simp [resolved] :
      (resolveFields env (recordLayout env fewer) node.fields {}
        { s with inProgress := s.inProgress ++ [name] }).1.2)
    rw [resolved] at added
    exact ⟨reached.close fresh found (fun unlaid => by cases unlaid) (fun _ _ => added),
      fun _ unlaid => by cases unlaid⟩

theorem recordLayout_sound (distinct : env.description.Distinct)
    (wf : env.description.WellFormed) (fuel : Nat) : LayoutSound env (recordLayout env fuel) := by
  -- each fuel's layout resolves fields with the layout of one less fuel
  induction fuel with
  | zero =>
    have inner : ∀ fewer, 0 = fewer + 1 → LayoutSound env (recordLayout env fewer) := by
      intro fewer impossible
      omega
    exact ⟨fun n _ hs => (recordLayout_reached distinct wf inner n hs).1,
      fun n _ hs => (recordLayout_reached distinct wf inner n hs).2⟩
  | succ fewer ih =>
    have inner : ∀ k, fewer + 1 = k + 1 → LayoutSound env (recordLayout env k) := by
      intro k same
      obtain rfl : fewer = k := by omega
      exact ih
    exact ⟨fun n _ hs => (recordLayout_reached distinct wf inner n hs).1,
      fun n _ hs => (recordLayout_reached distinct wf inner n hs).2⟩

/-- A struct asked for is bound afterwards, laid out or failed. -/
theorem recordLayout_binds {fuel : Nat} (found : (findRecord env name).isSome) :
    ((recordLayout env fuel name s).2.layouts.lookup name).isSome := by
  have step : LayoutStep env fuel name s (recordLayout env fuel name s) :=
    recordLayout_step fuel name s
  generalize recordLayout env fuel name s = result at step ⊢
  cases step with
  | unknown unknown => simp [unknown] at found
  | known node _ l laid => simp [laid]
  | recursive => simp
  | failed => simp
  | laidOut => simp

theorem recordLayout_described_of {fuel : Nat}
    (inner : ∀ fewer, fuel = fewer + 1 → ∀ n s, Described s → Described (recordLayout env fewer n s).2)
    (name : String) (described : Described s) : Described (recordLayout env fuel name s).2 := by
  have step : LayoutStep env fuel name s (recordLayout env fuel name s) :=
    recordLayout_step fuel name s
  generalize recordLayout env fuel name s = result at step ⊢
  -- the fields of a struct are resolved from a state that has every description it had
  have describedAfter : ∀ fewer, fuel = fewer + 1 → ∀ fields,
      Described (resolveFields env (recordLayout env fewer) fields {}
        { s with inProgress := s.inProgress ++ [name] }).2.2 := fun fewer more fields =>
    resolveFields_preserves Described (fun _ p m _ described => described.report p m)
      (fun _ => True) (fun n s _ described => inner fewer more n s described) fields
      (fun _ _ _ _ => trivial) described
  cases step with
  | unknown => exact described
  | known => exact described
  | recursive =>
    intro k l laid
    by_cases here : k = name
    · simp [here] at laid
    · simp [here] at laid ⊢
      exact described k l laid
  | failed node fewer more found fresh _ fields ok refs s₂ resolved =>
    have fieldsDescribed := describedAfter fewer more node.fields
    rw [resolved] at fieldsDescribed
    intro k l laid
    by_cases here : k = name
    · simp [here] at laid
    · simp [here] at laid ⊢
      exact fieldsDescribed k l laid
  | laidOut node fewer more found fresh _ fields refs s₂ resolved _ size align =>
    have fieldsDescribed := describedAfter fewer more node.fields
    rw [resolved] at fieldsDescribed
    intro k l laid
    by_cases here : k = name
    · subst here
      exact ⟨⟨k, node.union, size, align, fields⟩, by simp, rfl⟩
    · simp [here] at laid ⊢
      exact fieldsDescribed k l laid

theorem recordLayout_described (fuel : Nat) (name : String) (described : Described s) :
    Described (recordLayout env fuel name s).2 := by
  induction fuel generalizing name s with
  | zero => exact recordLayout_described_of (fun _ impossible => absurd impossible (by omega)) name described
  | succ fewer ih =>
    refine recordLayout_described_of (fun k same => ?_) name described
    obtain rfl : fewer = k := by omega
    exact fun n s described => ih n described

end SyscallTables.Compile
