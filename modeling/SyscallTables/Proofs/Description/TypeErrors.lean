import Mathlib
import SyscallTables.Proofs.Description.TypeGrammar
import SyscallTables.Proofs.Json.Scalars

namespace SyscallTables

namespace TypeExpr

/-! Where the type reader reports an error. It steps only over blanks, identifier characters,
brackets and commas, all of one UTF-8 byte, so the number of characters it has read is also the
byte offset it has reached, and that offset is always a character boundary. An unexpected
character after a whole expression is therefore reported whole, and a missing identifier at the
byte where one was required. Main statement: `parse_errors_at_char_boundaries`. -/

/-- Characters of one UTF-8 byte each. -/
def SingleBytes (cs : List Char) : Prop := ∀ c ∈ cs, c.utf8Size = 1

section Bytes

theorem utf8Size_of_lt {c : Char} (small : c.toNat < 128) : c.utf8Size = 1 := by
  rw [Char.utf8Size_eq_one_iff, UInt32.le_iff_toNat_le, Char.toNat_val]
  simp only [UInt32.reduceToNat]
  omega

theorem utf8Size_of_blank {c : Char} (blank : Text.isAsciiBlank c = true) : c.utf8Size = 1 := by
  simp only [Text.isAsciiBlank, Bool.or_eq_true, decide_eq_true_eq] at blank
  rcases blank with (((rfl | rfl) | rfl) | rfl) | rfl <;> rfl

theorem utf8Size_of_identChar {c : Char} (ident : isIdentChar c = true) : c.utf8Size = 1 := by
  apply utf8Size_of_lt
  simp only [isIdentChar, Char.isAlphanum, Char.isAlpha, Char.isUpper, Char.isLower, Char.isDigit,
    Bool.or_eq_true, Bool.and_eq_true, decide_eq_true_eq] at ident
  rcases ident with (((⟨-, upper⟩ | ⟨-, lower⟩) | ⟨-, digit⟩) | rfl) | rfl
  · rw [UInt32.le_iff_toNat_le, Char.toNat_val] at upper
    simpa using Nat.lt_of_le_of_lt upper (by decide)
  · rw [UInt32.le_iff_toNat_le, Char.toNat_val] at lower
    simpa using Nat.lt_of_le_of_lt lower (by decide)
  · rw [UInt32.le_iff_toNat_le, Char.toNat_val] at digit
    simpa using Nat.lt_of_le_of_lt digit (by decide)
  · decide
  · decide

theorem singleBytes_append {a b : List Char} : SingleBytes (a ++ b) ↔ SingleBytes a ∧ SingleBytes b := by
  simp only [SingleBytes, List.forall_mem_append]

theorem singleBytes_of_blank {w : List Char} (blank : Blank w) : SingleBytes w :=
  fun c member => utf8Size_of_blank (blank c member)

theorem singleBytes_of_word {i : List Char} (word : Word i) : SingleBytes i :=
  fun c member => utf8Size_of_identChar (word.2 c member)

/-- An expression of the grammar is written in blanks, identifier characters, brackets and
commas, one byte each. -/
theorem Derives.singleBytes {t : List Char} {e : TypeExpr} (derives : Derives t e) :
    SingleBytes t := by
  induction derives with
  | ident blank₁ word blank₂ =>
    simp only [singleBytes_append]
    exact ⟨⟨singleBytes_of_blank blank₁, singleBytes_of_word word⟩, singleBytes_of_blank blank₂⟩
  | @apply before i after first close e more blank₁ word blank₂ head gaps tail blank₃ ihHead
      ihTail =>
    have later : SingleBytes (laterText more) := by
      intro c member
      obtain ⟨m, inMore, inText⟩ := List.mem_flatMap.mp member
      rcases List.mem_append.mp inText with inGap | inArg
      · exact utf8Size_of_blank (gaps m inMore c inGap)
      · rcases List.mem_cons.mp inArg with rfl | inText
        · rfl
        · exact ihTail m inMore c inText
    intro c member
    simp only [List.mem_append, List.mem_cons, List.not_mem_nil, or_false] at member
    rcases member with (((((inBefore | inI) | inAfter) | rfl | inFirst) | inLater) | inClose) | rfl
    · exact utf8Size_of_blank (blank₁ c inBefore)
    · exact utf8Size_of_identChar (word.2 c inI)
    · exact utf8Size_of_blank (blank₂ c inAfter)
    · rfl
    · exact ihHead c inFirst
    · exact later c inLater
    · exact utf8Size_of_blank (blank₃ c inClose)
    · rfl

theorem length_flatMap_utf8EncodeChar {cs : List Char} (single : SingleBytes cs) :
    (cs.flatMap String.utf8EncodeChar).length = cs.length := by
  induction cs with
  | nil => rfl
  | cons c cs ih =>
    have rest : SingleBytes cs := fun x member => single x (List.mem_cons_of_mem c member)
    simp only [List.flatMap_cons, List.length_append, String.length_utf8EncodeChar,
      single c List.mem_cons_self, ih rest, List.length_cons]
    omega

/-- Past characters of one byte each, the byte offset is the number of characters, and the
bytes from there encode the rest of the text. -/
theorem toUTF8_drop {s : String} {pre rest : List Char} (split : s.toList = pre ++ rest)
    (single : SingleBytes pre) :
    s.toUTF8.toList.drop pre.length = rest.flatMap String.utf8EncodeChar := by
  rw [← Json.textBytes, Json.textBytes_eq, split, List.flatMap_append,
    ← length_flatMap_utf8EncodeChar single, List.drop_left]

end Bytes

section Stops

/-- The reader stops at a character that is not blank. -/
theorem skipBlank_stop (c : Cursor) : ∀ x ∈ (skipBlank c).rest.head?, Text.isAsciiBlank x = false := by
  intro x first
  rw [skipBlank_eq] at first
  have stop := List.head?_dropWhile_not Text.isAsciiBlank c.rest
  rw [Option.mem_def] at first
  rw [first] at stop
  simpa using stop

/-- An identifier is read up to a character that cannot continue it. -/
theorem identifier_stop {c c' : Cursor} {n : String} (read : identifier c = .ok (n, c')) :
    ∀ x ∈ c'.rest.head?, isIdentChar x = false := by
  rw [identifier_eq] at read
  split at read
  · cases read
  · simp only [Except.ok.injEq, Prod.mk.injEq] at read
    obtain ⟨-, rfl⟩ := read
    intro x first
    have stop := List.head?_dropWhile_not isIdentChar (skipBlank c).rest
    rw [Option.mem_def] at first
    rw [first] at stop
    simpa using stop

/-- A character extends the expression a text ends with when it continues the identifier the
text ends with, or opens arguments after a bare identifier. -/
def Extends (e : TypeExpr) (t : List Char) (c : Char) : Prop :=
  (isIdentChar c = true ∧ ∃ x ∈ t.getLast?, isIdentChar x = true) ∨ (c = '[' ∧ ∃ n, e = .ident n)

theorem getLast?_append_blank {t w : List Char} (blank : Blank w)
    (stop : ∀ x ∈ t.getLast?, isIdentChar x = false) :
    ∀ x ∈ (t ++ w).getLast?, isIdentChar x = false := by
  intro x last
  rw [List.getLast?_append, Option.mem_def] at last
  cases lastW : w.getLast? with
  | none =>
    rw [lastW] at last
    exact stop x (by simpa using last)
  | some y =>
    rw [lastW] at last
    obtain rfl : y = x := by simpa using last
    exact not_identChar_of_blank (blank y (List.mem_of_getLast? lastW))

/-- Blanks are all skipped, so no blank run sits in front of what follows them. -/
theorem skipBlank_no_gap {c : Cursor} {w : List Char} (blank : Blank w) {x : Char}
    {r : List Char} (shape : (skipBlank c).rest = w ++ x :: r) : w = [] := by
  cases w with
  | nil => rfl
  | cons y w =>
    have stop := skipBlank_stop c y (by simp only [shape]; rfl)
    rw [blank y List.mem_cons_self] at stop
    cases stop

/-- Nothing extends an expression that is not a bare identifier and whose text ends with a
closing bracket. -/
theorem not_extends_closed {e : TypeExpr} (notIdent : ∀ n, e ≠ .ident n) {t w : List Char}
    (blank : Blank w) (x : Char) : ¬Extends e (t ++ [']'] ++ w) x := by
  rintro (⟨-, y, last, identY⟩ | ⟨-, n, named⟩)
  · have closed : ∀ y ∈ (t ++ [']']).getLast?, isIdentChar y = false := by
      intro y last
      simp only [List.getLast?_append, List.getLast?_singleton, Option.some_or] at last
      cases last
      rfl
    rw [getLast?_append_blank blank closed y last] at identY
    cases identY
  · exact notIdent n named

/-- The reader stops after an expression at a character that does not extend it. -/
theorem readExpr_stops {fuel : Nat} {c c' : Cursor} {e : TypeExpr}
    (read : readExpr fuel c = .ok (e, c')) :
    ∃ t, c.rest = t ++ c'.rest ∧ Derives t e ∧
      ∀ w x r, Blank w → c'.rest = w ++ x :: r → Text.isAsciiBlank x = false →
        ¬Extends e (t ++ w) x := by
  cases fuel with
  | zero => simp [readExpr] at read
  | succ fuel =>
    simp only [readExpr] at read
    obtain ⟨⟨n, c₁⟩, named, rest⟩ := bind_eq_ok read
    obtain ⟨before, i, split, blank₁, word, rfl⟩ := identifier_eq_ok named
    obtain ⟨after, skipped, blank₂⟩ := skipBlank_split c₁
    split at rest
    · rename_i inner opens
      obtain ⟨⟨first, c₂⟩, firstRead, argsRead⟩ := bind_eq_ok rest
      obtain ⟨s, firstSplit, firstDerives⟩ := (read_derives _).1 _ _ _ firstRead
      obtain ⟨more, close, argsSplit, gaps, tail, blank₃, rfl⟩ :=
        (read_derives _).2 _ _ _ _ _ argsRead
      refine ⟨before ++ i ++ after ++ '[' :: s ++ laterText more ++ close ++ [']'], ?_,
        .apply blank₁ word blank₂ firstDerives gaps tail blank₃, ?_⟩
      · dsimp only at opens firstSplit argsSplit
        rw [split, skipped, opens, firstSplit, argsSplit]
        simp
      · -- an argument list ends the expression with its closing bracket
        intro w x r blank _ _
        exact not_extends_closed (fun _ => by simp) blank x
    · rename_i notBracket
      simp only [pure, Except.pure, Except.ok.injEq, Prod.mk.injEq] at rest
      obtain ⟨rfl, rfl⟩ := rest
      refine ⟨before ++ i ++ after, by rw [split, skipped]; simp, .ident blank₁ word blank₂, ?_⟩
      intro w x r blank shape solid extending
      -- the blanks after the identifier were all skipped, so the character follows them
      obtain rfl := skipBlank_no_gap blank shape
      rcases extending with ⟨ident, y, last, identY⟩ | ⟨rfl, -⟩
      · cases after with
        | nil =>
          -- no blank between: the identifier stopped at this very character
          have stop := identifier_stop named x (by simp only [skipped, shape]; rfl)
          rw [ident] at stop
          cases stop
        | cons a after =>
          rw [List.append_nil, List.getLast?_append_of_ne_nil _ (List.cons_ne_nil a after)] at last
          rw [not_identChar_of_blank (blank₂ y (List.mem_of_getLast? last))] at identY
          cases identY
      · exact notBracket r shape

end Stops

section Offsets

/-- Stepping over blanks moves the offset by what it steps over. -/
theorem skipBlank_offset (c : Cursor) :
    (skipBlank c).offset + (skipBlank c).rest.length = c.offset + c.rest.length := by
  rw [skipBlank_eq]
  dsimp only
  have whole := congrArg List.length (List.takeWhile_append_dropWhile (p := Text.isAsciiBlank)
    (l := c.rest))
  rw [List.length_append] at whole
  omega

theorem identifier_offset {c c' : Cursor} {n : String} (read : identifier c = .ok (n, c')) :
    c'.offset + c'.rest.length = c.offset + c.rest.length := by
  rw [identifier_eq] at read
  split at read
  · cases read
  · simp only [Except.ok.injEq, Prod.mk.injEq] at read
    obtain ⟨-, rfl⟩ := read
    have whole := congrArg List.length (List.takeWhile_append_dropWhile (p := isIdentChar)
      (l := (skipBlank c).rest))
    rw [List.length_append] at whole
    have skipped := skipBlank_offset c
    dsimp only
    omega

/-- The readers move the offset by exactly the characters they step over, so it counts the
characters read so far. -/
theorem read_offset (fuel : Nat) :
    (∀ c e c', readExpr fuel c = .ok (e, c') →
      c'.offset + c'.rest.length = c.offset + c.rest.length) ∧
      ∀ n acc c e c', readArgs fuel n acc c = .ok (e, c') →
        c'.offset + c'.rest.length = c.offset + c.rest.length := by
  induction fuel with
  | zero =>
    refine ⟨fun c e c' read => ?_, fun n acc c e c' read => ?_⟩ <;>
      simp [readExpr, readArgs] at read
  | succ fuel ih =>
    obtain ⟨exprs, args⟩ := ih
    refine ⟨fun c e c' read => ?_, fun n acc c e c' read => ?_⟩
    · simp only [readExpr] at read
      obtain ⟨⟨n, c₁⟩, named, rest⟩ := bind_eq_ok read
      have moved := identifier_offset named
      have skipped := skipBlank_offset c₁
      split at rest
      · rename_i inner opens
        obtain ⟨⟨first, c₂⟩, firstRead, argsRead⟩ := bind_eq_ok rest
        have firstMoved := exprs _ _ _ firstRead
        have argsMoved := args _ _ _ _ _ argsRead
        dsimp only at opens firstMoved argsMoved
        rw [opens, List.length_cons] at skipped
        omega
      · simp only [pure, Except.pure, Except.ok.injEq, Prod.mk.injEq] at rest
        obtain ⟨-, rfl⟩ := rest
        omega
    · simp only [readArgs] at read
      have skipped := skipBlank_offset c
      split at read
      · rename_i inner comma
        obtain ⟨⟨arg, c₂⟩, argRead, argsRead⟩ := bind_eq_ok read
        have argMoved := exprs _ _ _ argRead
        have argsMoved := args _ _ _ _ _ argsRead
        dsimp only at argMoved argsMoved
        rw [comma, List.length_cons] at skipped
        omega
      · rename_i inner closes
        simp only [pure, Except.pure, Except.ok.injEq, Prod.mk.injEq] at read
        obtain ⟨-, rfl⟩ := read
        rw [closes, List.length_cons] at skipped
        dsimp only
        omega
      · cases read

end Offsets

section Missing

theorem bind_eq_error {ε α β : Type} {x : Except ε α} {f : α → Except ε β} {e : ε}
    (bound : x >>= f = .error e) : x = .error e ∨ ∃ a, x = .ok a ∧ f a = .error e := by
  cases x with
  | error e' =>
    left
    simpa [bind, Except.bind] using bound
  | ok a => exact .inr ⟨a, rfl, bound⟩

theorem not_blank_of_comma {gap rest : List Char} : ¬Blank (gap ++ ',' :: rest) := fun blank =>
  absurd (blank ',' (by simp)) (by decide)

/-- A text after which the grammar asks for an identifier: blanks only, or an opening bracket or
a comma followed by blanks. -/
def AwaitsIdentifier (pre : List Char) : Prop :=
  Blank pre ∨ ∃ t w, Blank w ∧ (pre = t ++ '[' :: w ∨ pre = t ++ ',' :: w)

/-- A text that starts no identifier: it ends, or its first character is neither a blank nor
an identifier character. -/
def StartsNoIdentifier (post : List Char) : Prop :=
  ∀ x ∈ post.head?, Text.isAsciiBlank x = false ∧ isIdentChar x = false

/-- The start of some expression of the grammar. -/
def ExprPrefix (pre : List Char) : Prop := ∃ rest e, Derives (pre ++ rest) e

/-- The start of the arguments after the first, up to and with the closing bracket. -/
def ArgsPrefix (pre : List Char) : Prop :=
  ∃ rest more close, pre ++ rest = laterText more ++ close ++ [']'] ∧
    (∀ m ∈ more, Blank m.gap) ∧ (∀ m ∈ more, Derives m.text m.tree) ∧ Blank close

theorem AwaitsIdentifier.after {p : List Char} (awaits : AwaitsIdentifier p) (y : List Char)
    {sep : Char} (separates : sep = '[' ∨ sep = ',') : AwaitsIdentifier (y ++ sep :: p) := by
  right
  rcases awaits with blank | ⟨t, w, blank, rfl | rfl⟩
  · rcases separates with rfl | rfl
    · exact ⟨y, p, blank, .inl rfl⟩
    · exact ⟨y, p, blank, .inr rfl⟩
  · exact ⟨y ++ sep :: t, w, blank, .inl (by simp)⟩
  · exact ⟨y ++ sep :: t, w, blank, .inr (by simp)⟩

theorem AwaitsIdentifier.append {p : List Char} (awaits : AwaitsIdentifier p) (solid : ¬Blank p)
    (y : List Char) : AwaitsIdentifier (y ++ p) := by
  rcases awaits with blank | ⟨t, w, blank, rfl | rfl⟩
  · exact absurd blank solid
  · exact .inr ⟨y ++ t, w, blank, .inl (by simp)⟩
  · exact .inr ⟨y ++ t, w, blank, .inr (by simp)⟩

/-- Where a reader of one expression misses an identifier at `n`: what it stepped over starts an
expression and ends where the grammar asks for an identifier that the rest does not start, and
`n` counts the characters stepped over. -/
def MissesInExpr (c : Cursor) (n : Nat) : Prop :=
  ∃ pre post, c.rest = pre ++ post ∧ n + post.length = c.offset + c.rest.length ∧
    SingleBytes pre ∧ AwaitsIdentifier pre ∧ StartsNoIdentifier post ∧ ExprPrefix pre

/-- The same for the reader of the arguments after the first, which has stepped over a comma. -/
def MissesInArgs (c : Cursor) (n : Nat) : Prop :=
  ∃ pre post, c.rest = pre ++ post ∧ n + post.length = c.offset + c.rest.length ∧
    SingleBytes pre ∧ AwaitsIdentifier pre ∧ ¬Blank pre ∧ StartsNoIdentifier post ∧
    ArgsPrefix pre

theorem SingleBytes.push {t : List Char} (single : SingleBytes t) {x : Char}
    (separates : x = '[' ∨ x = ',') : SingleBytes (t ++ [x]) := by
  refine singleBytes_append.mpr ⟨single, ?_⟩
  rcases separates with rfl | rfl <;> simp only [SingleBytes, List.mem_singleton, forall_eq] <;> rfl

/-- The blanks skipped before a character, and the offset of what follows it. -/
theorem skipBlank_before {c : Cursor} {x : Char} {inner : List Char}
    (found : (skipBlank c).rest = x :: inner) :
    ∃ gap, c.rest = gap ++ x :: inner ∧ Blank gap ∧
      (skipBlank c).offset + 1 + inner.length = c.offset + c.rest.length := by
  obtain ⟨gap, skipped, blank⟩ := skipBlank_split c
  have moved := skipBlank_offset c
  rw [found, List.length_cons] at moved
  rw [found] at skipped
  exact ⟨gap, skipped, blank, by omega⟩

/-- An identifier followed by an opening bracket, blanks around the identifier. -/
theorem identifier_opens {c c₁ : Cursor} {name : String} {inner : List Char}
    (named : identifier c = .ok (name, c₁)) (opens : (skipBlank c₁).rest = '[' :: inner) :
    ∃ before i after, c.rest = before ++ i ++ after ++ '[' :: inner ∧ Blank before ∧ Word i ∧
      Blank after ∧ (skipBlank c₁).offset + 1 + inner.length = c.offset + c.rest.length := by
  obtain ⟨before, i, split, blank₁, word, -⟩ := identifier_eq_ok named
  obtain ⟨after, skipped, blank₂, moved⟩ := skipBlank_before opens
  have read := identifier_offset named
  exact ⟨before, i, after, by rw [split, skipped]; simp, blank₁, word, blank₂, by omega⟩

theorem readExpr_rest_le {fuel : Nat} {c c' : Cursor} {e : TypeExpr}
    (read : readExpr fuel c = .ok (e, c')) : c'.rest.length ≤ c.rest.length := by
  obtain ⟨t, split, -⟩ := (read_derives _).1 _ _ _ read
  rw [split, List.length_append]
  omega

/-- No identifier after the blanks: the blanks alone await one. -/
theorem missesInExpr_of_identifier {c : Cursor} {n : Nat}
    (missing : identifier c = .error (.expectedIdentifier n)) : MissesInExpr c n := by
  rw [identifier_eq] at missing
  split at missing
  · rename_i noWord
    simp only [Except.error.injEq, Error.expectedIdentifier.injEq] at missing
    obtain ⟨w, skipped, blank⟩ := skipBlank_split c
    have stops : ∀ x ∈ (skipBlank c).rest.head?, isIdentChar x = false := by
      intro x first
      cases rest : (skipBlank c).rest with
      | nil => simp [rest] at first
      | cons y ys =>
        rw [rest, List.head?_cons, Option.mem_def, Option.some.injEq] at first
        subst first
        simpa [rest] using noWord
    -- an identifier alone completes the blanks to an expression
    have word : Word ['x'] := ⟨by simp, by simp [isIdentChar]⟩
    refine ⟨w, (skipBlank c).rest, skipped, ?_, singleBytes_of_blank blank, .inl blank,
      fun x first => ⟨skipBlank_stop c x first, stops x first⟩, ['x'], _,
      by simpa using Derives.ident blank word blank_nil⟩
    rw [← missing]
    exact skipBlank_offset c
  · cases missing

/-- The first argument misses its identifier: the bracket opened before it can still close
after it. -/
theorem MissesInExpr.opening {c c₁ : Cursor} {name : String} {inner : List Char} {n : Nat}
    (named : identifier c = .ok (name, c₁)) (opens : (skipBlank c₁).rest = '[' :: inner)
    (first : MissesInExpr ⟨inner, (skipBlank c₁).offset + 1⟩ n) : MissesInExpr c n := by
  obtain ⟨before, i, after, split, blank₁, word, blank₂, moved⟩ := identifier_opens named opens
  obtain ⟨pre, post, innerSplit, offset, single, awaits, noWord, rest, e, derives⟩ := first
  dsimp only at innerSplit offset
  have lead : SingleBytes (before ++ i ++ after ++ ['[']) :=
    SingleBytes.push (singleBytes_append.mpr ⟨singleBytes_append.mpr
      ⟨singleBytes_of_blank blank₁, singleBytes_of_word word⟩, singleBytes_of_blank blank₂⟩) (.inl rfl)
  have closed := @Derives.apply before i after (pre ++ rest) [] e [] blank₁ word blank₂
    derives (by simp) (by simp) blank_nil
  refine ⟨before ++ i ++ after ++ '[' :: pre, post, by rw [split, innerSplit]; simp, by omega,
    by simpa using singleBytes_append.mpr ⟨lead, single⟩, awaits.after _ (.inl rfl), noWord,
    rest ++ [']'], _, by simpa using closed⟩

/-- An argument after the first misses its identifier, once the first argument has been read. -/
theorem MissesInExpr.later {c c₁ c₂ : Cursor} {name : String} {inner : List Char}
    {fuel n : Nat} {first : TypeExpr}
    (named : identifier c = .ok (name, c₁)) (opens : (skipBlank c₁).rest = '[' :: inner)
    (firstRead : readExpr fuel ⟨inner, (skipBlank c₁).offset + 1⟩ = .ok (first, c₂))
    (later : MissesInArgs c₂ n) : MissesInExpr c n := by
  obtain ⟨before, i, after, split, blank₁, word, blank₂, moved⟩ := identifier_opens named opens
  obtain ⟨s, innerSplit, firstDerives⟩ := (read_derives _).1 _ _ _ firstRead
  have firstMoved := (read_offset _).1 _ _ _ firstRead
  obtain ⟨pre, post, argsSplit, offset, single, awaits, solid, noWord, rest, more, close,
    completed, gaps, tail, blank₃⟩ := later
  dsimp only at innerSplit firstMoved
  have lead : SingleBytes (before ++ i ++ after ++ ['['] ++ s) :=
    singleBytes_append.mpr ⟨SingleBytes.push (singleBytes_append.mpr ⟨singleBytes_append.mpr
      ⟨singleBytes_of_blank blank₁, singleBytes_of_word word⟩, singleBytes_of_blank blank₂⟩)
      (.inl rfl), firstDerives.singleBytes⟩
  refine ⟨before ++ i ++ after ++ '[' :: s ++ pre, post, by rw [split, innerSplit, argsSplit]; simp,
    by omega, by simpa using singleBytes_append.mpr ⟨lead, single⟩,
    by simpa using awaits.append solid (before ++ i ++ after ++ '[' :: s), noWord, rest,
    .apply (String.ofList i) (first :: more.map NextArg.tree), ?_⟩
  have derives := Derives.apply blank₁ word blank₂ firstDerives gaps tail blank₃
  rw [List.append_assoc _ pre rest, completed]
  simpa using derives

/-- The argument after a comma misses its identifier: it is the last argument so far. -/
theorem MissesInArgs.comma {c : Cursor} {inner : List Char} {n : Nat}
    (comma : (skipBlank c).rest = ',' :: inner)
    (arg : MissesInExpr ⟨inner, (skipBlank c).offset + 1⟩ n) : MissesInArgs c n := by
  obtain ⟨gap, split, blank, moved⟩ := skipBlank_before comma
  obtain ⟨pre, post, innerSplit, offset, single, awaits, noWord, rest, e, derives⟩ := arg
  dsimp only at innerSplit offset
  have lead : SingleBytes (gap ++ [',']) := SingleBytes.push (singleBytes_of_blank blank) (.inr rfl)
  refine ⟨gap ++ ',' :: pre, post, by rw [split, innerSplit]; simp, by omega,
    by simpa using singleBytes_append.mpr ⟨lead, single⟩, awaits.after gap (.inr rfl),
    not_blank_of_comma, noWord, rest ++ [']'], [⟨gap, pre ++ rest, e⟩], [], by simp,
    by simpa using blank, by simpa using derives, blank_nil⟩

/-- A later argument misses its identifier, once the one after the comma has been read. -/
theorem MissesInArgs.later {c c₂ : Cursor} {inner : List Char} {fuel n : Nat} {arg : TypeExpr}
    (comma : (skipBlank c).rest = ',' :: inner)
    (argRead : readExpr fuel ⟨inner, (skipBlank c).offset + 1⟩ = .ok (arg, c₂))
    (later : MissesInArgs c₂ n) : MissesInArgs c n := by
  obtain ⟨gap, split, blank, moved⟩ := skipBlank_before comma
  obtain ⟨s, innerSplit, argDerives⟩ := (read_derives _).1 _ _ _ argRead
  have argMoved := (read_offset _).1 _ _ _ argRead
  obtain ⟨pre, post, argsSplit, offset, single, awaits, solid, noWord, rest, more, close,
    completed, gaps, tail, blank₃⟩ := later
  dsimp only at innerSplit argMoved
  have lead : SingleBytes (gap ++ [','] ++ s) :=
    singleBytes_append.mpr ⟨SingleBytes.push (singleBytes_of_blank blank) (.inr rfl),
      argDerives.singleBytes⟩
  refine ⟨gap ++ ',' :: s ++ pre, post, by rw [split, innerSplit, argsSplit]; simp, by omega,
    by simpa using singleBytes_append.mpr ⟨lead, single⟩,
    by simpa using awaits.append solid (gap ++ ',' :: s), by simpa using not_blank_of_comma,
    noWord, rest, ⟨gap, s, arg⟩ :: more, close, ?_, ?_, ?_, blank₃⟩
  · rw [List.append_assoc _ pre rest, completed]
    simp
  · intro m member
    rcases List.mem_cons.mp member with rfl | later
    · exact blank
    · exact gaps m later
  · intro m member
    rcases List.mem_cons.mp member with rfl | later
    · exact argDerives
    · exact tail m later

/-- Where the readers miss an identifier, what they stepped over starts an expression, or the
arguments after the first, and ends where the grammar asks for an identifier that the rest does
not start; the offset reported counts what they stepped over. -/
theorem read_missing_identifier (fuel : Nat) :
    (∀ c n, readExpr fuel c = .error (.expectedIdentifier n) → c.rest.length < fuel →
      ∃ pre post, c.rest = pre ++ post ∧ n + post.length = c.offset + c.rest.length ∧
        SingleBytes pre ∧ AwaitsIdentifier pre ∧ StartsNoIdentifier post ∧ ExprPrefix pre) ∧
    ∀ name acc c n, readArgs fuel name acc c = .error (.expectedIdentifier n) →
      c.rest.length < fuel →
      ∃ pre post, c.rest = pre ++ post ∧ n + post.length = c.offset + c.rest.length ∧
        SingleBytes pre ∧ AwaitsIdentifier pre ∧ ¬Blank pre ∧ StartsNoIdentifier post ∧
        ArgsPrefix pre := by
  -- the two readers call each other with one less fuel, on less text
  induction fuel with
  | zero =>
    refine ⟨fun c n _ short => absurd short (Nat.not_lt_zero _), fun name acc c n read _ => ?_⟩
    simp [readArgs] at read
  | succ fuel ih =>
    obtain ⟨exprs, args⟩ := ih
    refine ⟨fun c n read short => ?_, fun name acc c n read short => ?_⟩
    · simp only [readExpr] at read
      rcases bind_eq_error read with missing | ⟨⟨name, c₁⟩, named, rest⟩
      · exact missesInExpr_of_identifier missing
      · dsimp only at rest
        split at rest
        · rename_i inner opens
          obtain ⟨before, i, after, split, -, word, -, -⟩ := identifier_opens named opens
          have fits : inner.length < fuel := by
            have wordLong : 0 < i.length := List.length_pos_iff.mpr word.1
            rw [split] at short
            simp only [List.length_append, List.length_cons] at short
            omega
          rcases bind_eq_error rest with firstFails | ⟨⟨first, c₂⟩, firstRead, argsFail⟩
          · exact MissesInExpr.opening named opens (exprs _ n firstFails fits)
          · have argsFit := Nat.lt_of_le_of_lt (readExpr_rest_le firstRead) fits
            exact MissesInExpr.later named opens firstRead (args _ _ _ n argsFail argsFit)
        · cases rest
    · simp only [readArgs] at read
      split at read
      · rename_i inner comma
        obtain ⟨gap, split, -, -⟩ := skipBlank_before comma
        have fits : inner.length < fuel := by
          rw [split] at short
          simp only [List.length_append, List.length_cons] at short
          omega
        rcases bind_eq_error read with argFails | ⟨⟨arg, c₂⟩, argRead, argsFail⟩
        · exact MissesInArgs.comma comma (exprs _ n argFails fits)
        · have argsFit := Nat.lt_of_le_of_lt (readExpr_rest_le argRead) fits
          exact MissesInArgs.later comma argRead (args _ _ _ n argsFail argsFit)
      · cases read
      · cases read

/-- Only the final check of a whole text reports an unexpected character. -/
theorem read_never_unexpected (fuel : Nat) :
    (∀ c found s, readExpr fuel c ≠ .error (.unexpected found s)) ∧
      ∀ name acc c found s, readArgs fuel name acc c ≠ .error (.unexpected found s) := by
  induction fuel with
  | zero =>
    refine ⟨fun c found s read => ?_, fun name acc c found s read => ?_⟩ <;>
      simp [readExpr, readArgs] at read
  | succ fuel ih =>
    refine ⟨fun c found s read => ?_, fun name acc c found s read => ?_⟩
    · simp only [readExpr] at read
      rcases bind_eq_error read with named | ⟨_, _, rest⟩
      · rw [identifier_eq] at named
        split at named <;> cases named
      · split at rest
        · rcases bind_eq_error rest with first | ⟨_, _, args⟩
          · exact ih.1 _ _ _ first
          · exact ih.2 _ _ _ _ _ args
        · cases rest
    · simp only [readArgs] at read
      split at read
      · rcases bind_eq_error read with arg | ⟨_, _, args⟩
        · exact ih.1 _ _ _ arg
        · exact ih.2 _ _ _ _ _ args
      · cases read
      · cases read

end Missing

/-- Reading a type never leaves a character boundary of its UTF-8 bytes: it only steps over
blanks, identifier characters, brackets and commas, one byte each. A character found after a
whole expression and its blanks is reported whole, with the input, and it neither is a blank
nor extends the expression; a missing identifier is reported at the byte offset of the first
character that cannot start one, after a text that begins an expression and ends where the
grammar asks for an identifier. -/
theorem parse_errors_at_char_boundaries (input : String) :
    (∀ found s, parse input = .error (.unexpected found s) →
      s = input ∧ ∃ pre post e, input.toList = pre ++ found :: post ∧ Sentence pre e ∧
        Text.isAsciiBlank found = false ∧ ¬Extends e pre found ∧ SingleBytes pre ∧
        input.toUTF8.toList.drop pre.length = (found :: post).flatMap String.utf8EncodeChar) ∧
    ∀ n, parse input = .error (.expectedIdentifier n) →
      ∃ pre post, input.toList = pre ++ post ∧ n = pre.length ∧ SingleBytes pre ∧
        AwaitsIdentifier pre ∧ StartsNoIdentifier post ∧ ExprPrefix pre ∧
        input.toUTF8.toList.drop n = post.flatMap String.utf8EncodeChar := by
  refine ⟨fun found s failed => ?_, fun n failed => ?_⟩
  · simp only [parse] at failed
    rcases bind_eq_error failed with readFails | ⟨⟨e, c⟩, read, rest⟩
    · exact absurd readFails ((read_never_unexpected _).1 _ _ _)
    · split at rest
      · cases rest
      · rename_i x post found'
        simp only [Except.error.injEq, Error.unexpected.injEq] at rest
        obtain ⟨rfl, rfl⟩ := rest
        obtain ⟨t, split, derives, stops⟩ := readExpr_stops read
        obtain ⟨w, skipped, blank⟩ := skipBlank_split c
        dsimp only at split found'
        rw [found'] at skipped
        have solid : Text.isAsciiBlank x = false := skipBlank_stop c x (by simp [found'])
        have single : SingleBytes (t ++ w) :=
          singleBytes_append.mpr ⟨derives.singleBytes, singleBytes_of_blank blank⟩
        have whole : input.toList = t ++ w ++ x :: post := by
          rw [split, skipped, List.append_assoc]
        exact ⟨rfl, t ++ w, post, e, whole, ⟨t, w, rfl, derives, blank⟩, solid,
          stops w x post blank skipped solid, single, toUTF8_drop whole single⟩
  · simp only [parse] at failed
    rcases bind_eq_error failed with readFails | ⟨⟨e, c⟩, read, rest⟩
    · obtain ⟨pre, post, split, offset, single, awaits, noWord, started⟩ :=
        (read_missing_identifier _).1 _ n readFails (by simp)
      dsimp only at split offset
      have counted : n = pre.length := by
        rw [split, List.length_append] at offset
        omega
      subst counted
      exact ⟨pre, post, split, rfl, single, awaits, noWord, started, toUTF8_drop split single⟩
    · split at rest
      · cases rest
      · cases rest

end TypeExpr

end SyscallTables
