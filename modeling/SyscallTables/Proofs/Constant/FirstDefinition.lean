import Mathlib.Data.List.Basic
import Mathlib.Data.List.Induction
import Mathlib.Data.List.TakeDrop
import Mathlib.Data.List.TakeWhile
import SyscallTables.Proofs.Constant.Contents

namespace SyscallTables.ConstFile

/-! Constant files read one after another into one table: the first valid definition of a name
wins. Reading is a left fold of `addLine` over every line of every file; here it is described
line by line instead. The table binds each name to its first valid definition, and each line
reports against the valid definitions read before it: one diagnostic if it is malformed, one if
it gives a name a value other than its first, nothing otherwise. -/

/-- One line of a constant file: the file, its index in the file and its text. -/
structure SourceLine where
  file : String
  index : Nat
  text : String

/-- The lines of the sources, file after file. -/
def sourceLines (sources : List (String × String)) : List SourceLine :=
  sources.flatMap fun (file, source) =>
    (Text.lines source).zipIdx.map fun (text, index) => ⟨file, index, text⟩

/-- The sources read in order into one table, from the empty one. -/
def readSources (sources : List (String × String)) : ConstTable × List Diagnostic :=
  sources.foldl (fun state (file, source) => read file source state) (ConstTable.empty, [])

/-- The binding a line's text makes, when it is a valid definition. -/
def bindingOf (text : String) : Option (String × UInt64) :=
  match readLine text with
  | .binding name value => some (name, value)
  | _ => none

/-- The message of a later definition giving `name` a value other than its first. -/
def conflictMessage (name : String) (first later : UInt64) : String :=
  "conflicting values for " ++ name ++ ": " ++ toString first.toNat ++ " and " ++ toString later.toNat

namespace SourceLine

/-- Where a diagnostic about the line points: its file, its number, and the byte after its
leading white space. -/
def position (l : SourceLine) : Position :=
  ⟨l.file, l.index + 1, (String.ofList (l.text.toList.takeWhile Text.isWhiteSpace)).utf8ByteSize + 1⟩

/-- Adds the line to a table and a diagnostic list, as reading its file does. -/
def add (state : ConstTable × List Diagnostic) (l : SourceLine) : ConstTable × List Diagnostic :=
  addLine l.file state (l.index, l.text)

/-- What a line reports after the valid definitions `earlier`: its one diagnostic when it is
malformed, a conflict when it gives a name other than its first value, else nothing. -/
def report (earlier : List (String × UInt64)) (l : SourceLine) : List Diagnostic :=
  match readLine l.text with
  | .skip => []
  | .malformed message => [⟨l.position, message⟩]
  | .binding name value =>
    match earlier.lookup name with
    | some first =>
      if first = value then [] else [⟨l.position, conflictMessage name first value⟩]
    | none => []

end SourceLine

/-- The valid definitions among lines, in order. -/
def definitions (lines : List SourceLine) : List (String × UInt64) :=
  lines.filterMap (bindingOf ·.text)

/-- What the lines report, each against the valid definitions of the lines before it. -/
def reports (lines : List SourceLine) : List Diagnostic :=
  lines.zipIdx.flatMap fun (l, k) => l.report (definitions (lines.take k))

/-- A valid definition as the format has it: the trimmed line is neither empty nor a comment, its
text before the first `=` trims to an identifier, and its text after it trims to a literal. -/
def ValidDefinition (text name : String) (value : UInt64) : Prop :=
  ¬ ((Text.trim text).isEmpty ∨ (Text.trim text).startsWith "#") ∧
    ∃ before after, (Text.trim text).toList = before ++ '=' :: after ∧ '=' ∉ before ∧
      String.ofList (Text.trimChars before) = name ∧ isIdentifier name = true ∧
      Literal.parse (String.ofList (Text.trimChars after)) = some value

section Table

theorem lookup_singleton_ite (name k : String) (value : UInt64) :
    [(name, value)].lookup k = if k = name then some value else none := by
  have test : (k == name) = decide (k = name) := rfl
  by_cases same : k = name <;> simp [List.lookup_cons, test, same]

theorem ConstTable.get?_insert (t : ConstTable) (name : String) (value : UInt64) (k : String) :
    (t.insert name value).get? k = (t.get? k).or ([(name, value)].lookup k) := by
  unfold ConstTable.insert
  split
  · rename_i bound
    obtain ⟨first, found⟩ := Option.isSome_iff_exists.mp bound
    rw [lookup_singleton_ite]
    split
    · rename_i same
      rw [same, found]
      rfl
    · rw [Option.or_none]
  · simp only [ConstTable.get?, List.lookup_append]

end Table

/-- The column of a line's first non-blank byte is one past the bytes of its leading blanks. -/
theorem firstColumn_eq (line : String) :
    firstColumn line = (String.ofList (line.toList.takeWhile Text.isWhiteSpace)).utf8ByteSize + 1 := by
  have split : line.utf8ByteSize =
      (String.ofList (line.toList.takeWhile Text.isWhiteSpace)).utf8ByteSize +
        (String.ofList (line.toList.dropWhile Text.isWhiteSpace)).utf8ByteSize := by
    rw [← String.utf8ByteSize_append, ← String.ofList_append, List.takeWhile_append_dropWhile,
      String.ofList_toList]
  unfold firstColumn Text.trimStart Text.trimStartChars
  omega

theorem readSources_eq (sources : List (String × String)) :
    readSources sources = (sourceLines sources).foldl SourceLine.add (ConstTable.empty, []) := by
  unfold readSources sourceLines
  rw [List.foldl_flatMap]
  congr 1
  funext state source
  simp [read, List.foldl_map, SourceLine.add]

theorem definitions_append_singleton (lines : List SourceLine) (l : SourceLine) :
    definitions (lines ++ [l]) = definitions lines ++ (bindingOf l.text).toList := by
  unfold definitions
  rw [List.filterMap_append]
  cases found : bindingOf l.text <;> simp [found]

theorem reports_append_singleton (lines : List SourceLine) (l : SourceLine) :
    reports (lines ++ [l]) = reports lines ++ l.report (definitions lines) := by
  unfold reports
  rw [List.zipIdx_append, List.flatMap_append]
  refine congrArg₂ (· ++ ·) ?_ ?_
  · -- a line before the new one sees only the lines before itself
    apply List.flatMap_congr
    rintro ⟨l', k⟩ member
    have before := (List.mem_zipIdx member).2.1
    simp only [Nat.zero_add] at before
    dsimp only
    rw [List.take_append_of_le_length (Nat.le_of_lt before)]
  · simp

/-- One line read: the table follows the valid definitions with it, and the line adds its report
to the diagnostics. -/
theorem add_spec {state : ConstTable × List Diagnostic} {earlier : List (String × UInt64)}
    (agrees : ∀ k, state.1.get? k = earlier.lookup k) (l : SourceLine) :
    (∀ k, (l.add state).1.get? k = (earlier ++ (bindingOf l.text).toList).lookup k) ∧
      (l.add state).2 = state.2 ++ l.report earlier := by
  obtain ⟨table, diags⟩ := state
  simp only [SourceLine.add, addLine, SourceLine.report, bindingOf, firstColumn_eq]
  cases line : readLine l.text with
  | skip => simpa using agrees
  | malformed message => simpa [SourceLine.position] using agrees
  | binding name value =>
    simp only [Option.toList_some]
    rw [← agrees name]
    cases found : table.get? name with
    | none =>
      refine ⟨fun k => ?_, by simp⟩
      rw [ConstTable.get?_insert, List.lookup_append, agrees]
    | some first =>
      -- a name bound already keeps its first value
      have unchanged : ∀ k, (earlier ++ [(name, value)]).lookup k = earlier.lookup k := by
        intro k
        rw [List.lookup_append, lookup_singleton_ite]
        split
        · rename_i same
          rw [same, ← agrees, found]
          rfl
        · rw [Option.or_none]
      by_cases same : first = value
      · simp [same, unchanged, agrees]
      · simp [same, unchanged, agrees, SourceLine.position]
        rfl


/-- Reading lines one after another: the table follows the valid definitions of the lines read
so far, and the diagnostics are those lines' reports. -/
theorem foldl_add_spec (lines : List SourceLine) :
    ∀ (done : List SourceLine) (state : ConstTable × List Diagnostic),
      (∀ k, state.1.get? k = (definitions done).lookup k) → state.2 = reports done →
      (∀ k, (lines.foldl SourceLine.add state).1.get? k = (definitions (done ++ lines)).lookup k) ∧
        (lines.foldl SourceLine.add state).2 = reports (done ++ lines) := by
  induction lines with
  | nil =>
    intro done state agrees reported
    simpa using ⟨agrees, reported⟩
  | cons l rest ih =>
    intro done state agrees reported
    obtain ⟨agrees', reported'⟩ := add_spec agrees l
    have after := ih (done ++ [l]) (l.add state) (by rwa [definitions_append_singleton])
      (by rw [reported', reported, reports_append_singleton])
    simpa only [List.foldl_cons, List.append_assoc, List.singleton_append] using after

theorem readSources_get? (sources : List (String × String)) (k : String) :
    (readSources sources).1.get? k = (definitions (sourceLines sources)).lookup k := by
  rw [readSources_eq]
  exact ((foldl_add_spec _ [] _ (fun k => rfl) rfl).1 k)

theorem readSources_diagnostics (sources : List (String × String)) :
    (readSources sources).2 = reports (sourceLines sources) := by
  rw [readSources_eq]
  exact (foldl_add_spec _ [] _ (fun k => rfl) rfl).2

section Lines

theorem splitAtEquals_eq_some_iff {cs before after : List Char} :
    splitAtEquals cs = some (before, after) ↔ cs = before ++ '=' :: after ∧ '=' ∉ before := by
  unfold splitAtEquals
  rw [List.span_eq_takeWhile_dropWhile]
  constructor
  · intro split
    split at split
    · rename_i taken rest dropped
      obtain ⟨rfl, rfl⟩ := Prod.mk.inj (Option.some.inj split)
      obtain ⟨taken_eq, dropped_eq⟩ := Prod.mk.inj dropped
      refine ⟨by rw [← taken_eq, ← dropped_eq, List.takeWhile_append_dropWhile], fun member => ?_⟩
      rw [← taken_eq] at member
      simpa using List.mem_takeWhile_imp member
    · cases split
  · rintro ⟨rfl, plain⟩
    have kept : ∀ c ∈ before, (c != '=') = true := fun c member => by
      simp only [bne_iff_ne, ne_eq]
      rintro rfl
      exact plain member
    simp [List.takeWhile_append_of_pos kept, List.dropWhile_append_of_pos kept]

theorem splitAtEquals_unique {cs before after before' after' : List Char}
    (split : splitAtEquals cs = some (before, after)) (whole : cs = before' ++ '=' :: after')
    (plain : '=' ∉ before') : before' = before ∧ after' = after := by
  rw [splitAtEquals_eq_some_iff.mpr ⟨whole, plain⟩] at split
  cases split
  exact ⟨rfl, rfl⟩

/-- A line says nothing exactly when its trimmed text is empty or a comment. -/
theorem readLine_eq_skip_iff (text : String) :
    readLine text = .skip ↔ (Text.trim text).isEmpty ∨ (Text.trim text).startsWith "#" := by
  rw [← Bool.or_eq_true]
  by_cases blank : ((Text.trim text).isEmpty || (Text.trim text).startsWith "#") = true
  · simp [readLine, blank]
  · simp only [readLine, blank, Bool.false_eq_true, if_false, iff_false]
    split
    · exact Line.noConfusion
    · split
      · exact Line.noConfusion
      · split <;> exact Line.noConfusion

/-- A line binds `name` to `value` exactly when it is a valid definition of them. -/
theorem readLine_eq_binding_iff (text name : String) (value : UInt64) :
    readLine text = .binding name value ↔ ValidDefinition text name value := by
  by_cases blank : ((Text.trim text).isEmpty || (Text.trim text).startsWith "#") = true
  · rw [(readLine_eq_skip_iff text).mpr (Bool.or_eq_true _ _ ▸ blank)]
    simp only [reduceCtorEq, false_iff, ValidDefinition, not_and]
    exact fun open_ => absurd (Bool.or_eq_true _ _ ▸ blank) open_
  · have open_ : ¬ ((Text.trim text).isEmpty ∨ (Text.trim text).startsWith "#") :=
      fun closed => blank (by simpa using closed)
    cases split : splitAtEquals (Text.trim text).toList with
    | none =>
      simp only [readLine, blank, Bool.false_eq_true, if_false, split, reduceCtorEq, false_iff,
        ValidDefinition, not_and]
      rintro - ⟨before, after, whole, plain, -⟩
      rw [splitAtEquals_eq_some_iff.mpr ⟨whole, plain⟩] at split
      cases split
    | some parts =>
      obtain ⟨before, after⟩ := parts
      simp only [readLine, blank, Bool.false_eq_true, if_false, split]
      constructor
      · intro read
        have whole := splitAtEquals_eq_some_iff.mp split
        by_cases identifier : isIdentifier (String.ofList (Text.trimChars before)) = true
        · cases parsed : Literal.parse (String.ofList (Text.trimChars after)) with
          | none => simp [identifier, parsed] at read
          | some v =>
            simp only [identifier, parsed, Bool.not_true, Bool.false_eq_true, if_false,
              Line.binding.injEq] at read
            obtain ⟨rfl, rfl⟩ := read
            exact ⟨open_, before, after, whole.1, whole.2, rfl, identifier, parsed⟩
        · simp [identifier] at read
      · rintro ⟨-, before', after', whole, plain, rfl, identifier, parsed⟩
        obtain ⟨rfl, rfl⟩ := splitAtEquals_unique split whole plain
        simp [identifier, parsed]

theorem bindingOf_eq_some_iff {text name : String} {value : UInt64} :
    bindingOf text = some (name, value) ↔ ValidDefinition text name value := by
  rw [← readLine_eq_binding_iff, bindingOf]
  cases readLine text <;> simp

end Lines

section FirstBinding

variable {α κ β : Type} [BEq κ] [LawfulBEq κ]

/-- Looking a key up among the bindings items make finds the binding of the first item that
binds it. -/
theorem lookup_filterMap_eq_some_iff {f : α → Option (κ × β)} {items : List α} {k : κ} {v : β} :
    (items.filterMap f).lookup k = some v ↔
      ∃ before x after, items = before ++ x :: after ∧ f x = some (k, v) ∧
        ∀ y ∈ before, ∀ w, f y ≠ some (k, w) := by
  rw [List.lookup_eq_some_iff]
  constructor
  · rintro ⟨bound, unbound, split, fresh⟩
    obtain ⟨front, back, rfl, frontMade, backMade⟩ := List.filterMap_eq_append_iff.mp split
    obtain ⟨skipped, x, after, rfl, silent, made, -⟩ := List.filterMap_eq_cons_iff.mp backMade
    refine ⟨front ++ skipped, x, after, by simp, made, fun y member w binds => ?_⟩
    rcases List.mem_append.mp member with early | late
    · have key := fresh (k, w) (frontMade ▸ List.mem_filterMap.mpr ⟨y, early, binds⟩)
      simp at key
    · simp [silent y late] at binds
  · rintro ⟨before, x, after, rfl, made, fresh⟩
    refine ⟨before.filterMap f, after.filterMap f, by simp [made], ?_⟩
    rintro ⟨k', w⟩ member
    obtain ⟨y, early, binds⟩ := List.mem_filterMap.mp member
    rw [bne_iff_ne]
    rintro rfl
    exact fresh y early w binds

/-- Bindings that give each key one value, however often they bind it. -/
def Agreeing (bindings : List (κ × β)) : Prop :=
  ∀ p ∈ bindings, ∀ q ∈ bindings, p.1 = q.1 → p.2 = q.2

variable {bindings : List (κ × β)}

theorem Agreeing.lookup_of_mem (agree : Agreeing bindings) {k : κ} {v : β}
    (member : (k, v) ∈ bindings) : bindings.lookup k = some v := by
  cases found : bindings.lookup k with
  | none =>
    have key := List.lookup_eq_none_iff.mp found (k, v) member
    simp at key
  | some w => exact congrArg some (agree _ (mem_of_lookup_some found) _ member rfl)

/-- Agreeing bindings are found the same in every order. -/
theorem Agreeing.lookup_perm (agree : Agreeing bindings) {other : List (κ × β)}
    (perm : other.Perm bindings) (k : κ) : other.lookup k = bindings.lookup k := by
  cases found : other.lookup k with
  | some v => exact (agree.lookup_of_mem (perm.mem_iff.mp (mem_of_lookup_some found))).symm
  | none =>
    symm
    rw [List.lookup_eq_none_iff] at found ⊢
    exact fun p member => found p (perm.mem_iff.mpr member)

/-- A new binding that agrees with the first binding of its key keeps the bindings agreeing. -/
theorem Agreeing.append_singleton (agree : Agreeing bindings) {k : κ} {v : β}
    (same : ∀ first, bindings.lookup k = some first → first = v) :
    Agreeing (bindings ++ [(k, v)]) := by
  -- every earlier binding of the key has its first value, which is the new one
  have earlier : ∀ p ∈ bindings, p.1 = k → p.2 = v := by
    rintro ⟨k', w⟩ member rfl
    exact same w (agree.lookup_of_mem member)
  intro p mp q mq key
  simp only [List.mem_append, List.mem_singleton] at mp mq
  rcases mp with mp | rfl <;> rcases mq with mq | rfl
  · exact agree p mp q mq key
  · exact earlier p mp key
  · exact (earlier q mq key.symm).symm
  · rfl

end FirstBinding

section Order

/-- Diagnostics none of which reports a conflict. -/
def Quiet (diags : List Diagnostic) : Prop :=
  ∀ d ∈ diags, ∀ name first later, d.message ≠ conflictMessage name first later

theorem definitions_eq_filterMap (lines : List SourceLine) :
    definitions lines = (lines.map SourceLine.text).filterMap bindingOf := by
  rw [definitions, List.filterMap_map]
  rfl

/-- Lines that report no conflict define each name at most one way. -/
theorem agreeing_of_quiet (lines : List SourceLine) (quiet : Quiet (reports lines)) :
    Agreeing (definitions lines) := by
  induction lines using List.reverseRecOn with
  | nil => simp [Agreeing, definitions]
  | append_singleton lines l ih =>
    rw [reports_append_singleton] at quiet
    unfold Quiet at quiet
    have earlier := ih fun d member => quiet d (List.mem_append_left _ member)
    rw [definitions_append_singleton]
    cases bound : bindingOf l.text with
    | none => simpa using earlier
    | some binding =>
      obtain ⟨name, value⟩ := binding
      -- a first value other than this one would have been reported against this line
      have same : ∀ first, (definitions lines).lookup name = some first → first = value := by
        intro first found
        by_contra differ
        have line : readLine l.text = .binding name value :=
          (readLine_eq_binding_iff _ _ _).mpr (bindingOf_eq_some_iff.mp bound)
        have reported : l.report (definitions lines) =
            [⟨l.position, conflictMessage name first value⟩] := by
          simp [SourceLine.report, line, found, differ]
        exact quiet _ (List.mem_append_right _ (reported ▸ List.mem_singleton_self _)) name
          first value rfl
      exact earlier.append_singleton same

/-- Sources that report no conflict bind the same values whatever the order of their lines. -/
theorem readSources_get?_perm {sources sources' : List (String × String)}
    (quiet : Quiet (readSources sources).2)
    (perm : ((sourceLines sources').map SourceLine.text).Perm
      ((sourceLines sources).map SourceLine.text)) (k : String) :
    (readSources sources').1.get? k = (readSources sources).1.get? k := by
  rw [readSources_diagnostics] at quiet
  have agree := agreeing_of_quiet _ quiet
  rw [definitions_eq_filterMap] at agree
  rw [readSources_get?, readSources_get?, definitions_eq_filterMap, definitions_eq_filterMap]
  exact agree.lookup_perm (perm.filterMap bindingOf) k

end Order

/-- A name is bound to the value of its first valid definition, and only a valid definition
binds it. -/
theorem readSources_get?_eq_some_iff (sources : List (String × String)) (k : String)
    (v : UInt64) :
    (readSources sources).1.get? k = some v ↔
      ∃ before l after, sourceLines sources = before ++ l :: after ∧ ValidDefinition l.text k v ∧
        ∀ l' ∈ before, ∀ w, ¬ ValidDefinition l'.text k w := by
  rw [readSources_get?, definitions, lookup_filterMap_eq_some_iff]
  simp only [bindingOf_eq_some_iff, ne_eq]

/-- Constant files read in order into one table: a line says nothing when it is blank or a
comment, binds a name when it is a valid definition, and is reported otherwise; the table binds
each name to its first valid definition; the diagnostics are the lines' reports in order; and
when none of them is a conflict, the order of the lines makes no difference to the table. -/
theorem readSources_first_definition_wins (sources : List (String × String)) :
    (∀ text, (readLine text = .skip ↔
        (Text.trim text).isEmpty ∨ (Text.trim text).startsWith "#") ∧
      ∀ name value, readLine text = .binding name value ↔ ValidDefinition text name value) ∧
    (∀ k v, (readSources sources).1.get? k = some v ↔
      ∃ before l after, sourceLines sources = before ++ l :: after ∧ ValidDefinition l.text k v ∧
        ∀ l' ∈ before, ∀ w, ¬ ValidDefinition l'.text k w) ∧
    (readSources sources).2 = reports (sourceLines sources) ∧
    ∀ sources', Quiet (readSources sources).2 →
      ((sourceLines sources').map SourceLine.text).Perm
        ((sourceLines sources).map SourceLine.text) →
      ∀ k, (readSources sources').1.get? k = (readSources sources).1.get? k :=
  ⟨fun text => ⟨readLine_eq_skip_iff text, readLine_eq_binding_iff text⟩,
    readSources_get?_eq_some_iff sources, readSources_diagnostics sources,
    fun _ quiet perm => readSources_get?_perm quiet perm⟩

/-- Two files without conflicts, read in either order, bind `A` alike. -/
theorem swapped_files_bind_alike :
    (readSources [("b", "B = 2\n"), ("a", "A = 1\n")]).1.get? "A" =
      (readSources [("a", "A = 1\n"), ("b", "B = 2\n")]).1.get? "A" := by
  have silent : (readSources [("a", "A = 1\n"), ("b", "B = 2\n")]).2 = [] := by decide +kernel
  have swapped : (sourceLines [("b", "B = 2\n"), ("a", "A = 1\n")]).map SourceLine.text =
      ["B = 2", "A = 1"] := by decide +kernel
  have inOrder : (sourceLines [("a", "A = 1\n"), ("b", "B = 2\n")]).map SourceLine.text =
      ["A = 1", "B = 2"] := by decide +kernel
  refine (readSources_first_definition_wins _).2.2.2 _ ?_ ?_ "A"
  · intro d member
    rw [silent] at member
    cases member
  · rw [swapped, inOrder]
    exact List.Perm.swap _ _ _

end SyscallTables.ConstFile
