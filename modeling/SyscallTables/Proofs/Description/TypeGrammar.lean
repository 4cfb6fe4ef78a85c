import Mathlib.Data.List.Basic
import Mathlib.Data.List.TakeDrop
import Mathlib.Data.List.TakeWhile
import SyscallTables.Proofs.Description.Reading

namespace SyscallTables

namespace TypeExpr

/-! The grammar the reader of type expressions accepts. A whole text is an expression followed
by blanks; an expression is blanks, an identifier and blanks, then optionally a bracketed list of
expressions separated by blanks and a comma:

  Sentence := Expr W,  Expr := W I W ('[' Expr (W ',' Expr)* W ']')?

where `W` is a run of ASCII blanks and `I` a non-empty run of identifier characters. The reader
accepts exactly the sentences of this grammar and returns the tree their derivation denotes;
rendering that tree gives the text back without its blanks and with one space after each comma,
and reads back to the same tree. -/

/-- A run of ASCII blanks. -/
def Blank (w : List Char) : Prop := ∀ c ∈ w, Text.isAsciiBlank c = true

/-- The characters of an identifier: a non-empty run of letters, digits, `_` and `-`. -/
def Word (i : List Char) : Prop := i ≠ [] ∧ ∀ c ∈ i, isIdentChar c = true

section Characters

theorem blank_append_iff {w w' : List Char} : Blank (w ++ w') ↔ Blank w ∧ Blank w' := by
  simp only [Blank, List.forall_mem_append]

theorem blank_nil : Blank [] := nofun

theorem not_identChar_of_blank {c : Char} (blank : Text.isAsciiBlank c = true) :
    isIdentChar c = false := by
  simp only [Text.isAsciiBlank, Bool.or_eq_true, decide_eq_true_eq] at blank
  rcases blank with (((rfl | rfl) | rfl) | rfl) | rfl <;> decide

theorem not_blank_of_identChar {c : Char} (ident : isIdentChar c = true) :
    Text.isAsciiBlank c = false := by
  cases blank : Text.isAsciiBlank c
  · rfl
  · rw [not_identChar_of_blank blank] at ident
    cases ident

end Characters

section Cursor

/-- Stepping over blanks drops the blank prefix of the unread characters and counts it. -/
theorem skipBlank_eq (c : Cursor) :
    skipBlank c = ⟨c.rest.dropWhile Text.isAsciiBlank,
      c.offset + (c.rest.takeWhile Text.isAsciiBlank).length⟩ := by
  obtain ⟨rest, offset⟩ := c
  induction rest generalizing offset with
  | nil => simp [skipBlank]
  | cons c rest ih =>
    rw [skipBlank]
    by_cases blank : Text.isAsciiBlank c = true
    · simp only [blank, if_true, ih, List.dropWhile_cons_of_pos blank,
        List.takeWhile_cons_of_pos blank, List.length_cons, Cursor.mk.injEq, true_and]
      omega
    · simp [blank]

/-- Nothing is skipped before a character that is not blank. -/
theorem skipBlank_of_not_blank {rest : List Char} (o : Nat)
    (stop : ∀ c ∈ rest.head?, Text.isAsciiBlank c = false) : skipBlank ⟨rest, o⟩ = ⟨rest, o⟩ := by
  cases rest with
  | nil => simp [skipBlank]
  | cons c rest =>
    rw [skipBlank]
    simp [stop c rfl]

theorem skipBlank_skipBlank (c : Cursor) : skipBlank (skipBlank c) = skipBlank c := by
  rw [skipBlank_eq c]
  apply skipBlank_of_not_blank
  intro x first
  have stop := List.head?_dropWhile_not Text.isAsciiBlank c.rest
  rw [Option.mem_def] at first
  rwa [first] at stop

/-- Blanks in front are skipped and counted. -/
theorem skipBlank_blank_append {w : List Char} (blank : Blank w) (rest : List Char) (o : Nat) :
    skipBlank ⟨w ++ rest, o⟩ = skipBlank ⟨rest, o + w.length⟩ := by
  rw [skipBlank_eq, skipBlank_eq]
  simp only [List.dropWhile_append_of_pos blank, List.takeWhile_append_of_pos blank,
    List.length_append, Cursor.mk.injEq, true_and]
  omega

/-- Blanks are skipped up to the first character that is not blank. -/
theorem skipBlank_blank_cons {w : List Char} (blank : Blank w) {c : Char}
    (solid : Text.isAsciiBlank c = false) (rest : List Char) (o : Nat) :
    skipBlank ⟨w ++ c :: rest, o⟩ = ⟨c :: rest, o + w.length⟩ := by
  rw [skipBlank_blank_append blank, skipBlank_of_not_blank]
  rintro x ⟨⟩
  exact solid

/-- Reading an identifier: blanks skipped, then the longest run of identifier characters. -/
theorem identifier_eq (c : Cursor) :
    identifier c =
      if ((skipBlank c).rest.takeWhile isIdentChar).isEmpty then
        .error (.expectedIdentifier (skipBlank c).offset)
      else .ok (String.ofList ((skipBlank c).rest.takeWhile isIdentChar),
        ⟨(skipBlank c).rest.dropWhile isIdentChar,
          (skipBlank c).offset + ((skipBlank c).rest.takeWhile isIdentChar).length⟩) := by
  simp only [identifier, List.span_eq_takeWhile_dropWhile]

theorem identifier_eq_ok {c c' : Cursor} {n : String} (read : identifier c = .ok (n, c')) :
    ∃ w i, c.rest = w ++ i ++ c'.rest ∧ Blank w ∧ Word i ∧ n = String.ofList i := by
  rw [identifier_eq] at read
  split at read
  · cases read
  · rename_i found
    simp only [Except.ok.injEq, Prod.mk.injEq] at read
    obtain ⟨rfl, rfl⟩ := read
    refine ⟨c.rest.takeWhile Text.isAsciiBlank, (skipBlank c).rest.takeWhile isIdentChar,
      ?_, fun x member => List.mem_takeWhile_imp member, ⟨by simpa using found,
        fun x member => List.mem_takeWhile_imp member⟩, rfl⟩
    rw [List.append_assoc, List.takeWhile_append_dropWhile, skipBlank_eq,
      List.takeWhile_append_dropWhile]

/-- An identifier after blanks is read up to the first character that cannot continue it. -/
theorem identifier_blank_word {w i rest : List Char} (blank : Blank w) (word : Word i)
    (stop : ∀ c ∈ rest.head?, isIdentChar c = false) (o : Nat) :
    identifier ⟨w ++ i ++ rest, o⟩ =
      .ok (String.ofList i, ⟨rest, o + w.length + i.length⟩) := by
  have start : skipBlank ⟨w ++ i ++ rest, o⟩ = ⟨i ++ rest, o + w.length⟩ := by
    rw [List.append_assoc, skipBlank_blank_append blank]
    apply skipBlank_of_not_blank
    obtain ⟨c, cs, rfl⟩ := List.exists_cons_of_ne_nil word.1
    intro x first
    rw [List.cons_append, List.head?_cons, Option.mem_def, Option.some.injEq] at first
    subst first
    exact not_blank_of_identChar (word.2 _ List.mem_cons_self)
  have ends : rest.takeWhile isIdentChar = [] := by
    cases rest with
    | nil => rfl
    | cons c cs => simp [stop c rfl]
  have ends' : rest.dropWhile isIdentChar = rest := by
    cases rest with
    | nil => rfl
    | cons c cs => simp [stop c rfl]
  rw [identifier_eq, start]
  simp only [List.takeWhile_append_of_pos word.2, List.dropWhile_append_of_pos word.2, ends, ends',
    List.append_nil, List.isEmpty_iff, word.1, if_false]

/-- The blanks a cursor steps over. -/
theorem skipBlank_split (c : Cursor) : ∃ w, c.rest = w ++ (skipBlank c).rest ∧ Blank w :=
  ⟨c.rest.takeWhile Text.isAsciiBlank, by rw [skipBlank_eq, List.takeWhile_append_dropWhile],
    fun _ member => List.mem_takeWhile_imp member⟩

end Cursor

/-- An argument after the first: the blanks before its comma, its text and the tree it denotes. -/
structure NextArg where
  gap : List Char
  text : List Char
  tree : TypeExpr

/-- The text of the arguments after the first: each its blanks, a comma and its own text. -/
def laterText (more : List NextArg) : List Char :=
  more.flatMap fun m => m.gap ++ ',' :: m.text

@[simp] theorem laterText_nil : laterText [] = [] := rfl

@[simp] theorem laterText_cons (m : NextArg) (more : List NextArg) :
    laterText (m :: more) = m.gap ++ ',' :: m.text ++ laterText more := by
  simp [laterText]

/-- `Derives t e`: the text `t` is an expression of the grammar, and its derivation denotes the
tree `e`. -/
inductive Derives : List Char → TypeExpr → Prop
  | ident {before i after : List Char} (blank₁ : Blank before) (word : Word i)
      (blank₂ : Blank after) : Derives (before ++ i ++ after) (.ident (String.ofList i))
  | apply {before i after first close : List Char} {e : TypeExpr} {more : List NextArg}
      (blank₁ : Blank before) (word : Word i) (blank₂ : Blank after) (head : Derives first e)
      (gaps : ∀ m ∈ more, Blank m.gap) (tail : ∀ m ∈ more, Derives m.text m.tree)
      (blank₃ : Blank close) :
      Derives (before ++ i ++ after ++ '[' :: first ++ laterText more ++ close ++ [']'])
        (.apply (String.ofList i) (e :: more.map NextArg.tree))

/-- A whole text of the grammar: an expression followed by blanks. -/
def Sentence (s : List Char) (e : TypeExpr) : Prop :=
  ∃ t w, s = t ++ w ∧ Derives t e ∧ Blank w

section Soundness

/-- What the readers step over is text of the grammar: an expression, and the arguments after
the first up to the closing bracket. -/
theorem read_derives (fuel : Nat) :
    (∀ c e c', readExpr fuel c = .ok (e, c') → ∃ t, c.rest = t ++ c'.rest ∧ Derives t e) ∧
      ∀ n acc c e c', readArgs fuel n acc c = .ok (e, c') →
        ∃ more close, c.rest = laterText more ++ close ++ ']' :: c'.rest ∧
          (∀ m ∈ more, Blank m.gap) ∧ (∀ m ∈ more, Derives m.text m.tree) ∧ Blank close ∧
          e = .apply n (acc ++ more.map NextArg.tree) := by
  -- the two readers call each other with one less fuel
  induction fuel with
  | zero =>
    refine ⟨fun c e c' read => ?_, fun n acc c e c' read => ?_⟩ <;>
      simp [readExpr, readArgs] at read
  | succ fuel ih =>
    obtain ⟨exprs, args⟩ := ih
    refine ⟨fun c e c' read => ?_, fun n acc c e c' read => ?_⟩
    · simp only [readExpr] at read
      obtain ⟨⟨n, c₁⟩, named, rest⟩ := bind_eq_ok read
      obtain ⟨before, i, split, blank₁, word, rfl⟩ := identifier_eq_ok named
      obtain ⟨after, skipped, blank₂⟩ := skipBlank_split c₁
      split at rest
      · rename_i inner opens
        obtain ⟨⟨first, c₂⟩, firstRead, argsRead⟩ := bind_eq_ok rest
        obtain ⟨s, firstSplit, firstDerives⟩ := exprs _ _ _ firstRead
        obtain ⟨more, close, argsSplit, gaps, tail, blank₃, rfl⟩ := args _ _ _ _ _ argsRead
        refine ⟨before ++ i ++ after ++ '[' :: s ++ laterText more ++ close ++ [']'], ?_,
          .apply blank₁ word blank₂ firstDerives gaps tail blank₃⟩
        dsimp only at opens firstSplit argsSplit
        rw [split, skipped, opens, firstSplit, argsSplit]
        simp
      · simp only [pure, Except.pure, Except.ok.injEq, Prod.mk.injEq] at rest
        obtain ⟨rfl, rfl⟩ := rest
        exact ⟨before ++ i ++ after, by rw [split, skipped]; simp, .ident blank₁ word blank₂⟩
    · simp only [readArgs] at read
      obtain ⟨gap, skipped, gapBlank⟩ := skipBlank_split c
      split at read
      · rename_i inner comma
        obtain ⟨⟨arg, c₂⟩, argRead, argsRead⟩ := bind_eq_ok read
        obtain ⟨s, argSplit, argDerives⟩ := exprs _ _ _ argRead
        obtain ⟨more, close, argsSplit, gaps, tail, blank₃, rfl⟩ := args _ _ _ _ _ argsRead
        refine ⟨⟨gap, s, arg⟩ :: more, close, ?_, List.forall_mem_cons.mpr ⟨gapBlank, gaps⟩,
          List.forall_mem_cons.mpr ⟨argDerives, tail⟩, blank₃, by simp⟩
        dsimp only at argSplit argsSplit
        rw [skipped, comma, argSplit, argsSplit]
        simp
      · rename_i inner closes
        simp only [pure, Except.pure, Except.ok.injEq, Prod.mk.injEq] at read
        obtain ⟨rfl, rfl⟩ := read
        exact ⟨[], gap, by rw [skipped, closes]; simp, by simp, by simp, gapBlank, by simp⟩
      · cases read

end Soundness

section Steps

variable {fuel : Nat}

theorem readExpr_of_bracket {c c₁ : Cursor} {n : String} {inner : List Char}
    (named : identifier c = .ok (n, c₁)) (opens : (skipBlank c₁).rest = '[' :: inner) :
    readExpr (fuel + 1) c = (do
      let (first, c₂) ← readExpr fuel ⟨inner, (skipBlank c₁).offset + 1⟩
      readArgs fuel n [first] c₂) := by
  rw [readExpr, named]
  simp only [bind, Except.bind, opens]

theorem readExpr_of_closing {c c₁ : Cursor} {n : String} (named : identifier c = .ok (n, c₁))
    (closing : ∀ x ∈ (skipBlank c₁).rest.head?, x = ',' ∨ x = ']') :
    readExpr (fuel + 1) c = .ok (.ident n, skipBlank c₁) := by
  rw [readExpr, named]
  simp only [bind, Except.bind]
  split
  · rename_i inner opens
    rw [opens] at closing
    simpa using closing '[' rfl
  · rfl

theorem readArgs_of_comma {n : String} {acc : List TypeExpr} {c : Cursor} {inner : List Char}
    (comma : (skipBlank c).rest = ',' :: inner) :
    readArgs (fuel + 1) n acc c = (do
      let (arg, c₂) ← readExpr fuel ⟨inner, (skipBlank c).offset + 1⟩
      readArgs fuel n (acc ++ [arg]) c₂) := by
  rw [readArgs]
  simp only [comma]

theorem readArgs_of_close {n : String} {acc : List TypeExpr} {c : Cursor} {inner : List Char}
    (closes : (skipBlank c).rest = ']' :: inner) :
    readArgs (fuel + 1) n acc c = .ok (.apply n acc, ⟨inner, (skipBlank c).offset + 1⟩) := by
  rw [readArgs]
  simp only [closes]
  rfl

/-- The argument reader starts by stepping over blanks. -/
theorem readArgs_skipBlank (n : String) (acc : List TypeExpr) (c : Cursor) :
    readArgs fuel n acc (skipBlank c) = readArgs fuel n acc c := by
  cases fuel with
  | zero => simp only [readArgs]
  | succ fuel => simp only [readArgs, skipBlank_skipBlank]

end Steps

section Completeness

/-- What may follow an expression: blanks, then the end, a comma or a closing bracket. -/
def Follows (rest : List Char) : Prop :=
  ∃ w r, rest = w ++ r ∧ Blank w ∧ ∀ x ∈ r.head?, x = ',' ∨ x = ']'

/-- The reader reads the text `t` as the tree `e` in front of whatever may follow it, when
given fuel beyond the characters left, and stops where the blanks after `t` begin or end. -/
def ReadsAs (t : List Char) (e : TypeExpr) : Prop :=
  ∀ {rest : List Char} {fuel : Nat} (o : Nat), Follows rest → (t ++ rest).length < fuel →
    ∃ c', readExpr fuel ⟨t ++ rest, o⟩ = .ok (e, c') ∧
      skipBlank c' = skipBlank ⟨rest, o + t.length⟩

theorem not_identChar_head {w r : List Char} (blank : Blank w)
    (stop : ∀ x ∈ r.head?, isIdentChar x = false) :
    ∀ x ∈ (w ++ r).head?, isIdentChar x = false := by
  cases w with
  | nil => simpa using stop
  | cons c w =>
    intro x first
    rw [List.cons_append, List.head?_cons, Option.mem_def, Option.some.injEq] at first
    subst first
    exact not_identChar_of_blank (blank _ List.mem_cons_self)

theorem Follows.blank_append {w rest : List Char} (blank : Blank w) (follows : Follows rest) :
    Follows (w ++ rest) := by
  obtain ⟨w', r, rfl, blank', closing⟩ := follows
  exact ⟨w ++ w', r, by simp, blank_append_iff.mpr ⟨blank, blank'⟩, closing⟩

theorem Follows.stop {rest : List Char} (follows : Follows rest) :
    ∀ x ∈ rest.head?, isIdentChar x = false := by
  obtain ⟨w, r, rfl, blank, closing⟩ := follows
  apply not_identChar_head blank
  intro x first
  rcases closing x first with rfl | rfl <;> rfl

theorem Follows.closing {rest : List Char} (follows : Follows rest) (o : Nat) :
    ∀ x ∈ (skipBlank ⟨rest, o⟩).rest.head?, x = ',' ∨ x = ']' := by
  obtain ⟨w, r, rfl, blank, closing⟩ := follows
  rw [skipBlank_blank_append blank, skipBlank_of_not_blank]
  · exact closing
  · intro x first
    rcases closing x first with rfl | rfl <;> rfl

/-- The arguments after one are followed by a comma or the closing bracket. -/
theorem follows_later {more : List NextArg} (gaps : ∀ m ∈ more, Blank m.gap) {close : List Char}
    (blank : Blank close) (rest : List Char) : Follows (laterText more ++ close ++ ']' :: rest) := by
  cases more with
  | nil => exact ⟨close, ']' :: rest, by simp, blank, by simp⟩
  | cons m more =>
    exact ⟨m.gap, ',' :: (m.text ++ laterText more ++ close ++ ']' :: rest), by simp,
      gaps m List.mem_cons_self, by simp⟩

theorem readArgs_complete {n : String} {more : List NextArg} (gaps : ∀ m ∈ more, Blank m.gap)
    (each : ∀ m ∈ more, ReadsAs m.text m.tree) {close : List Char} (blank : Blank close)
    (rest : List Char) :
    ∀ {fuel : Nat} (acc : List TypeExpr) (o : Nat),
      (laterText more ++ close ++ ']' :: rest).length < fuel →
      readArgs fuel n acc ⟨laterText more ++ close ++ ']' :: rest, o⟩ =
        .ok (.apply n (acc ++ more.map NextArg.tree),
          ⟨rest, o + (laterText more ++ close).length + 1⟩) := by
  -- one argument after another, each read in front of the ones after it
  induction more with
  | nil =>
    intro fuel acc o short
    obtain ⟨fuel, rfl⟩ : ∃ k, fuel = k + 1 := ⟨fuel - 1, by omega⟩
    have skips : skipBlank ⟨laterText [] ++ close ++ ']' :: rest, o⟩ =
        ⟨']' :: rest, o + close.length⟩ := by
      rw [laterText_nil, List.nil_append]
      exact skipBlank_blank_cons blank rfl _ _
    rw [readArgs_of_close (by rw [skips]), skips]
    simp
  | cons m more ih =>
    intro fuel acc o short
    obtain ⟨fuel, rfl⟩ : ∃ k, fuel = k + 1 := ⟨fuel - 1, by omega⟩
    have gapsRest : ∀ m' ∈ more, Blank m'.gap := fun m' member => gaps m' (List.mem_cons_of_mem m member)
    have eachRest : ∀ m' ∈ more, ReadsAs m'.text m'.tree :=
      fun m' member => each m' (List.mem_cons_of_mem m member)
    have skips : skipBlank ⟨laterText (m :: more) ++ close ++ ']' :: rest, o⟩ =
        ⟨',' :: (m.text ++ (laterText more ++ close ++ ']' :: rest)), o + m.gap.length⟩ := by
      have shape : laterText (m :: more) ++ close ++ ']' :: rest =
          m.gap ++ ',' :: (m.text ++ (laterText more ++ close ++ ']' :: rest)) := by simp
      rw [shape]
      exact skipBlank_blank_cons (gaps m List.mem_cons_self) rfl _ _
    have fits : (m.text ++ (laterText more ++ close ++ ']' :: rest)).length < fuel := by
      simp at short ⊢
      omega
    obtain ⟨c₂, argRead, argEnd⟩ := each m List.mem_cons_self (o + m.gap.length + 1)
      (follows_later gapsRest blank rest) fits
    rw [readArgs_of_comma (by rw [skips]), skips]
    dsimp only
    rw [argRead]
    simp only [bind, Except.bind]
    rw [← readArgs_skipBlank, argEnd, readArgs_skipBlank,
      ih gapsRest eachRest (acc ++ [m.tree]) _ (by simp at short ⊢; omega)]
    simp
    omega

/-- Every expression of the grammar is read as the tree its derivation denotes. -/
theorem readExpr_complete {t : List Char} {e : TypeExpr} (derives : Derives t e) :
    ReadsAs t e := by
  induction derives with
  | @ident before i after blank₁ word blank₂ =>
    intro rest fuel o follows short
    obtain ⟨fuel, rfl⟩ : ∃ k, fuel = k + 1 := ⟨fuel - 1, by omega⟩
    have named := identifier_blank_word blank₁ word (follows.blank_append blank₂).stop o
    -- the blanks after the identifier are skipped up to what follows the expression
    have skips : skipBlank ⟨after ++ rest, o + before.length + i.length⟩ =
        skipBlank ⟨rest, o + (before ++ i ++ after).length⟩ := by
      rw [skipBlank_blank_append blank₂]
      simp only [List.length_append, Nat.add_assoc]
    have shape : before ++ i ++ after ++ rest = before ++ i ++ (after ++ rest) := by simp
    refine ⟨skipBlank ⟨rest, o + (before ++ i ++ after).length⟩, ?_, skipBlank_skipBlank _⟩
    rw [shape, readExpr_of_closing named (by rw [skips]; exact follows.closing _), skips]
  | @apply before i after first close e more blank₁ word blank₂ head gaps tail blank₃ ihHead
      ihTail =>
    intro rest fuel o follows short
    obtain ⟨fuel, rfl⟩ : ∃ k, fuel = k + 1 := ⟨fuel - 1, by omega⟩
    have shape : before ++ i ++ after ++ '[' :: first ++ laterText more ++ close ++ [']'] ++ rest =
        before ++ i ++ (after ++ '[' :: (first ++ (laterText more ++ close ++ ']' :: rest))) := by
      simp
    have opening : ∀ x ∈ ('[' :: (first ++ (laterText more ++ close ++ ']' :: rest))).head?,
        isIdentChar x = false := by
      rintro x ⟨⟩
      rfl
    have named := identifier_blank_word blank₁ word (not_identChar_head blank₂ opening) o
    have skips : skipBlank ⟨after ++ '[' :: (first ++ (laterText more ++ close ++ ']' :: rest)),
        o + before.length + i.length⟩ =
        ⟨'[' :: (first ++ (laterText more ++ close ++ ']' :: rest)),
          o + before.length + i.length + after.length⟩ :=
      skipBlank_blank_cons blank₂ rfl _ _
    have fits : (first ++ (laterText more ++ close ++ ']' :: rest)).length < fuel := by
      simp at short ⊢
      omega
    obtain ⟨c₂, firstRead, firstEnd⟩ :=
      ihHead (o + before.length + i.length + after.length + 1) (follows_later gaps blank₃ rest) fits
    have argsFit : (laterText more ++ close ++ ']' :: rest).length < fuel := by
      simp at fits ⊢
      omega
    refine ⟨⟨rest, o + (before ++ i ++ after ++ '[' :: first ++ laterText more ++ close ++
      [']']).length⟩, ?_, rfl⟩
    rw [shape, readExpr_of_bracket named (by rw [skips]), skips]
    dsimp only
    rw [firstRead]
    simp only [bind, Except.bind]
    rw [← readArgs_skipBlank, firstEnd, readArgs_skipBlank,
      readArgs_complete gaps ihTail blank₃ rest [e] _ argsFit]
    simp
    omega

end Completeness

/-- The reader accepts exactly the sentences of the grammar, with the tree their derivation
denotes. -/
theorem parse_eq_ok_iff (s : String) (e : TypeExpr) : parse s = .ok e ↔ Sentence s.toList e := by
  constructor
  · intro parsed
    simp only [parse] at parsed
    obtain ⟨⟨e', c⟩, readOk, rest⟩ := bind_eq_ok parsed
    obtain ⟨t, split, derives⟩ := (read_derives _).1 _ _ _ readOk
    obtain ⟨w, trailing, blank⟩ := skipBlank_split c
    split at rest
    · rename_i ends
      simp only [pure, Except.pure, Except.ok.injEq] at rest
      subst rest
      dsimp only at ends
      rw [ends, List.append_nil] at trailing
      exact ⟨t, w, by rw [← trailing]; exact split, derives, blank⟩
    · cases rest
  · rintro ⟨t, w, split, derives, blank⟩
    have follows : Follows w := ⟨w, [], by simp, blank, by simp⟩
    obtain ⟨c', readOk, ends⟩ := readExpr_complete derives 0 follows
      (show (t ++ w).length < (t ++ w).length + 1 by omega)
    have emptied : skipBlank ⟨w, 0 + t.length⟩ = ⟨[], 0 + t.length + w.length⟩ := by
      rw [← List.append_nil w, skipBlank_blank_append blank, List.append_nil]
      exact skipBlank_of_not_blank _ nofun
    simp only [parse]
    rw [split, readOk]
    simp only [bind, Except.bind]
    rw [ends, emptied]
    rfl

/-- Every text of the grammar has one derivation tree. -/
theorem Sentence.unique {s : List Char} {e e' : TypeExpr} (derives : Sentence s e)
    (derives' : Sentence s e') : e = e' := by
  have parsed := (parse_eq_ok_iff (String.ofList s) e).mpr (by rwa [String.toList_ofList])
  have parsed' := (parse_eq_ok_iff (String.ofList s) e').mpr (by rwa [String.toList_ofList])
  rw [parsed] at parsed'
  cases parsed'
  rfl

section Rendering

/-- A text as rendering writes it: blanks dropped, one space after each comma. -/
def spell (cs : List Char) : List Char :=
  cs.flatMap fun c => if Text.isAsciiBlank c then [] else if c = ',' then [',', ' '] else [c]

@[simp] theorem spell_append (a b : List Char) : spell (a ++ b) = spell a ++ spell b :=
  List.flatMap_append

@[simp] theorem spell_nil : spell [] = [] := rfl

@[simp] theorem spell_open (cs : List Char) : spell ('[' :: cs) = '[' :: spell cs := rfl

@[simp] theorem spell_close (cs : List Char) : spell (']' :: cs) = ']' :: spell cs := rfl

@[simp] theorem spell_comma (cs : List Char) : spell (',' :: cs) = ',' :: ' ' :: spell cs := rfl

theorem spell_blank {w : List Char} (blank : Blank w) : spell w = [] := by
  simp only [spell, List.flatMap_eq_nil_iff]
  intro c member
  simp [blank c member]

theorem spell_word {i : List Char} (word : Word i) : spell i = i := by
  have kept : ∀ c ∈ i,
      (if Text.isAsciiBlank c then [] else if c = ',' then [',', ' '] else [c]) = [c] := by
    intro c member
    have ident := word.2 c member
    have notComma : c ≠ ',' := by
      rintro rfl
      cases ident
    simp [not_blank_of_identChar ident, notComma]
  rw [spell, List.flatMap_congr kept, List.flatMap_singleton']

theorem toList_renderArgs (a : TypeExpr) (args : List TypeExpr) :
    (renderArgs (a :: args)).toList =
      (render a).toList ++ args.flatMap fun b => ',' :: ' ' :: (render b).toList := by
  induction args generalizing a with
  | nil => simp [renderArgs]
  | cons b args ih =>
    simp only [renderArgs, String.toList_append, ih]
    simp

theorem spell_laterText {more : List NextArg} (gaps : ∀ m ∈ more, Blank m.gap)
    (each : ∀ m ∈ more, (render m.tree).toList = spell m.text) :
    spell (laterText more) =
      (more.map NextArg.tree).flatMap fun b => ',' :: ' ' :: (render b).toList := by
  induction more with
  | nil => rfl
  | cons m more ih =>
    rw [laterText_cons, spell_append, spell_append, spell_comma,
      spell_blank (gaps m List.mem_cons_self),
      ← each m List.mem_cons_self,
      ih (fun m' member => gaps m' (List.mem_cons_of_mem m member))
        (fun m' member => each m' (List.mem_cons_of_mem m member))]
    simp

/-- Rendering the tree of an expression writes the expression's text without its blanks and with
one space after each comma. -/
theorem Derives.render_eq {t : List Char} {e : TypeExpr} (derives : Derives t e) :
    (render e).toList = spell t := by
  induction derives with
  | ident blank₁ word blank₂ =>
    simp [render, spell_blank blank₁, spell_blank blank₂, spell_word word]
  | apply blank₁ word blank₂ head gaps tail blank₃ ihHead ihTail =>
    simp [render, toList_renderArgs, spell_blank blank₁, spell_blank blank₂, spell_blank blank₃,
      spell_word word, ihHead, spell_laterText gaps ihTail]

/-- Trees a rendering can be read back as: identifiers over the identifier characters, and at
least one argument to every application. -/
inductive Spellable : TypeExpr → Prop
  | ident {name : String} (word : Word name.toList) : Spellable (.ident name)
  | apply {name : String} {args : List TypeExpr} (word : Word name.toList) (nonempty : args ≠ [])
      (each : ∀ a ∈ args, Spellable a) : Spellable (.apply name args)

/-- Blanks may precede an expression. -/
theorem Derives.blank_append {w t : List Char} {e : TypeExpr} (blank : Blank w)
    (derives : Derives t e) : Derives (w ++ t) e := by
  cases derives with
  | ident blank₁ word blank₂ =>
    simpa using Derives.ident (blank_append_iff.mpr ⟨blank, blank₁⟩) word blank₂
  | apply blank₁ word blank₂ head gaps tail blank₃ =>
    simpa using Derives.apply (blank_append_iff.mpr ⟨blank, blank₁⟩) word blank₂ head gaps tail blank₃

/-- The rendering of a tree that can be read back is an expression of the grammar denoting it. -/
theorem Spellable.derives_render {e : TypeExpr} (spellable : Spellable e) :
    Derives (render e).toList e := by
  induction spellable with
  | @ident name word =>
    simpa [render] using Derives.ident blank_nil word blank_nil
  | @apply name args word nonempty each ih =>
    obtain ⟨a, rest, rfl⟩ := List.exists_cons_of_ne_nil nonempty
    -- each argument after the first is written after a comma and one space
    let more := rest.map fun b => (⟨[], ' ' :: (render b).toList, b⟩ : NextArg)
    have gaps : ∀ m ∈ more, Blank m.gap := by
      intro m member
      obtain ⟨b, -, rfl⟩ := List.mem_map.mp member
      exact blank_nil
    have tail : ∀ m ∈ more, Derives m.text m.tree := by
      intro m member
      obtain ⟨b, later, rfl⟩ := List.mem_map.mp member
      have space : Blank [' '] := by
        intro c member
        rw [List.mem_singleton.mp member]
        rfl
      exact Derives.blank_append space (ih b (List.mem_cons_of_mem a later))
    have derives := Derives.apply blank_nil word blank_nil (ih a List.mem_cons_self) gaps tail
      blank_nil
    have text : [] ++ name.toList ++ [] ++ '[' :: (render a).toList ++ laterText more ++ [] ++
        [']'] = (render (.apply name (a :: rest))).toList := by
      simp [render, toList_renderArgs, laterText, more, List.flatMap_map]
    have tree : more.map NextArg.tree = rest := by simp [more, Function.comp_def]
    rwa [text, tree, String.ofList_toList] at derives

end Rendering

/-- Reading type expressions: the reader accepts exactly the sentences of the grammar, and each
has one derivation, whose tree it returns. That tree applies every type to at least one argument,
and its rendering is the text without blanks and with one space after each comma. Every tree
over identifier characters with an argument to every application reads back from its
rendering. -/
theorem parse_accepts_exactly_its_grammar :
    (∀ s e, parse s = .ok e ↔ Sentence s.toList e) ∧
      (∀ s e e', Sentence s e → Sentence s e' → e = e') ∧
      (∀ s e, parse s = .ok e → e.WellFormed ∧ (render e).toList = spell s.toList) ∧
      ∀ e, Spellable e → parse (render e) = .ok e := by
  refine ⟨parse_eq_ok_iff, fun s e e' => Sentence.unique, fun s e parsed => ?_,
    fun e spellable => ?_⟩
  · obtain ⟨t, w, split, derives, blank⟩ := (parse_eq_ok_iff s e).mp parsed
    refine ⟨parse_wellFormed parsed, ?_⟩
    rw [split, spell_append, spell_blank blank, List.append_nil]
    exact derives.render_eq
  · exact (parse_eq_ok_iff _ e).mpr ⟨_, [], by simp, spellable.derives_render, blank_nil⟩

/-- A pointer to a 32-bit integer reads back from its rendering. -/
theorem pointer_reads_back :
    Spellable (.apply "ptr" [.ident "int32"]) ∧
      parse (render (.apply "ptr" [.ident "int32"])) = .ok (.apply "ptr" [.ident "int32"]) := by
  have spellable : Spellable (.apply "ptr" [.ident "int32"]) :=
    .apply ⟨by simp, by simp [isIdentChar]⟩ (by simp)
      (by simpa using Spellable.ident ⟨by simp, by simp [isIdentChar]⟩)
  exact ⟨spellable, parse_accepts_exactly_its_grammar.2.2.2 _ spellable⟩

end TypeExpr

end SyscallTables
