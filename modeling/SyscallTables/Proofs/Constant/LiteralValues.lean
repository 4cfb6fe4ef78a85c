import Mathlib.Data.Nat.Digits.Defs
import Mathlib.Data.List.Forall2
import SyscallTables.Constant.Literal

namespace SyscallTables.Literal

/-! The literals a constant may be written as, and the words they denote. A digit run denotes
the number its digits spell in the radix, letters in either case; hexadecimal follows `0x` or
`0X`, a negated decimal below `2 ^ 63` follows `-` and is stored in two's complement, and a bare
decimal is taken as it is. Because the text after `-` is read as a signed decimal, a second `-`
turns the negation back, and `-9223372036854775808`, the least signed word, is refused: its
magnitude is read first, and alone it does not fit a signed word. -/

section Characters

theorem char_le_iff {a b : Char} : a ≤ b ↔ a.toNat ≤ b.toNat := by
  rw [Char.le_def, UInt32.le_iff_toNat_le]
  rfl

theorem toNat_toLower (c : Char) :
    c.toLower.toNat = if 65 ≤ c.toNat ∧ c.toNat ≤ 90 then c.toNat + 32 else c.toNat := by
  have upper : (c.val ≥ 'A'.val ∧ c.val ≤ 'Z'.val) ↔ 65 ≤ c.toNat ∧ c.toNat ≤ 90 := by
    simp only [ge_iff_le, UInt32.le_iff_toNat_le, Char.toNat_val]
    rfl
  unfold Char.toLower
  by_cases inRange : 65 ≤ c.toNat ∧ c.toNat ≤ 90
  · rw [dif_pos (upper.mpr inRange), if_pos inRange]
    have shift : ('a'.val - 'A'.val).toNat = 32 := by decide
    simp only [Char.toNat, UInt32.toNat_add, shift]
    rw [Char.toNat_val]
    omega
  · rw [dif_neg (mt upper.mp inRange), if_neg inRange]

theorem toNat_digitChar {d : Nat} (small : d < 16) :
    (Nat.digitChar d).toNat = if d < 10 then 48 + d else 87 + d := by
  revert d
  decide

theorem digitValue_eq (radix : Nat) (c : Char) :
    digitValue radix c =
      (if 48 ≤ c.toNat ∧ c.toNat ≤ 57 then some (c.toNat - 48)
        else if 97 ≤ c.toNat ∧ c.toNat ≤ 102 then some (c.toNat - 97 + 10)
        else if 65 ≤ c.toNat ∧ c.toNat ≤ 70 then some (c.toNat - 65 + 10)
        else none).bind fun v => if v < radix then some v else none := by
  simp only [digitValue, char_le_iff, Bool.and_eq_true, decide_eq_true_eq]
  rfl

end Characters

/-- `c` is the digit `d` of `radix`, a letter in either case. -/
def IsDigit (radix : Nat) (c : Char) (d : Nat) : Prop :=
  d < radix ∧ c.toLower = Nat.digitChar d

/-- A non-empty run of digits of `radix` that denotes `m`, most significant first. -/
def Denotes (radix : Nat) (cs : List Char) (m : Nat) : Prop :=
  ∃ ds, List.Forall₂ (IsDigit radix) cs ds ∧ ds ≠ [] ∧ m = Nat.ofDigits radix ds.reverse

/-- A digit run after an optional `+`. -/
def DenotesUnsigned (radix : Nat) (cs : List Char) (m : Nat) : Prop :=
  Denotes radix cs m ∨ ∃ rest, cs = '+' :: rest ∧ Denotes radix rest m

/-- The literals and the words they denote: hexadecimal after `0x` or `0X`; after `-` a decimal
below `2 ^ 63`, negated in two's complement, or after a second `-` a decimal up to `2 ^ 63`
as it is; otherwise a decimal. A digit run may follow one `+`, except after a second `-`. -/
def Denoted (cs : List Char) (v : UInt64) : Prop :=
  (∃ body, (cs = '0' :: 'x' :: body ∨ cs = '0' :: 'X' :: body) ∧
      DenotesUnsigned 16 body v.toNat) ∨
    (∃ body m, cs = '-' :: body ∧ DenotesUnsigned 10 body m ∧ m < 2 ^ 63 ∧
      v.toNat = (2 ^ 64 - m) % 2 ^ 64) ∨
    (∃ body, cs = '-' :: '-' :: body ∧ Denotes 10 body v.toNat ∧ v.toNat ≤ 2 ^ 63) ∨
    DenotesUnsigned 10 cs v.toNat

section Digits

variable {radix : Nat}

theorem digitValue_eq_some_iff (small : radix ≤ 16) {c : Char} {d : Nat} :
    digitValue radix c = some d ↔ IsDigit radix c d := by
  rw [digitValue_eq, IsDigit, ← Char.toNat_inj, toNat_toLower]
  by_cases digit : d < radix
  · rw [toNat_digitChar (by omega)]
    -- each of the three ranges against the two shapes of a digit character
    split_ifs <;> simp only [Option.bind_some, Option.bind_none, reduceCtorEq, false_iff,
      Option.ite_none_right_eq_some, Option.some.injEq] <;> omega
  · constructor
    · intro found
      obtain ⟨v, -, guarded⟩ := Option.bind_eq_some_iff.mp found
      split at guarded
      · cases guarded
        contradiction
      · cases guarded
    · rintro ⟨below, -⟩
      contradiction

/-- A digit is written with a character from `0` to `9` or `a` to `f` once lowered. -/
theorem isDigit_range (small : radix ≤ 16) {c : Char} {d : Nat} (digit : IsDigit radix c d) :
    48 ≤ c.toLower.toNat ∧ c.toLower.toNat ≤ 102 := by
  obtain ⟨below, spelled⟩ := digit
  rw [spelled, toNat_digitChar (by omega)]
  split <;> omega

theorem not_isDigit_of_toLower (small : radix ≤ 16) {c : Char}
    (outside : c.toLower.toNat < 48 ∨ 102 < c.toLower.toNat) (d : Nat) : ¬ IsDigit radix c d :=
  fun digit => by
    have := isDigit_range small digit
    omega

theorem digitsFrom_eq_some_iff (small : radix ≤ 16) (acc : Nat) (cs : List Char) (v : Nat) :
    digitsFrom radix acc cs = some v ↔ ∃ ds, List.Forall₂ (IsDigit radix) cs ds ∧
      v = acc * radix ^ cs.length + Nat.ofDigits radix ds.reverse := by
  induction cs generalizing acc with
  | nil =>
    simp only [digitsFrom, Option.some.injEq, List.forall₂_nil_left_iff, exists_eq_left,
      List.length_nil, pow_zero, mul_one, List.reverse_nil, Nat.ofDigits_nil, add_zero]
    exact eq_comm
  | cons c cs ih =>
    simp only [digitsFrom, Option.bind_eq_some_iff]
    constructor
    · rintro ⟨d, digit, rest⟩
      obtain ⟨ds, each, value⟩ := (ih _).mp rest
      refine ⟨d :: ds, .cons ((digitValue_eq_some_iff small).mp digit) each, ?_⟩
      rw [value, List.length_cons, Nat.ofDigits_reverse_cons, ← each.length_eq]
      ring
    · rintro ⟨_ | ⟨d, ds⟩, each, value⟩
      · cases each
      · obtain ⟨digit, rest⟩ := List.forall₂_cons.mp each
        refine ⟨d, (digitValue_eq_some_iff small).mpr digit, (ih _).mpr ⟨ds, rest, ?_⟩⟩
        rw [value, List.length_cons, Nat.ofDigits_reverse_cons, ← rest.length_eq]
        ring

theorem digits_eq_some_iff (small : radix ≤ 16) (cs : List Char) (m : Nat) :
    digits radix cs = some m ↔ Denotes radix cs m := by
  cases cs with
  | nil => simp [digits, Denotes]
  | cons c cs =>
    show digitsFrom radix 0 (c :: cs) = some m ↔ _
    rw [digitsFrom_eq_some_iff small, Denotes]
    constructor
    · rintro ⟨ds, each, value⟩
      refine ⟨ds, each, ?_, by rw [value]; ring⟩
      rintro rfl
      cases each
    · rintro ⟨ds, each, -, value⟩
      exact ⟨ds, each, by rw [value]; ring⟩

theorem not_denotes_of_head (small : radix ≤ 16) {c : Char} {cs : List Char} {m : Nat}
    (outside : c.toLower.toNat < 48 ∨ 102 < c.toLower.toNat) : ¬ Denotes radix (c :: cs) m := by
  rintro ⟨_ | ⟨d, ds⟩, each, -, -⟩
  · cases each
  · exact not_isDigit_of_toLower small outside d (List.forall₂_cons.mp each).1

theorem not_denotes_plus (small : radix ≤ 16) {cs : List Char} {m : Nat} :
    ¬ Denotes radix ('+' :: cs) m :=
  not_denotes_of_head small (by decide)

theorem not_denotes_minus (small : radix ≤ 16) {cs : List Char} {m : Nat} :
    ¬ Denotes radix ('-' :: cs) m :=
  not_denotes_of_head small (by decide)

/-- A character that is no digit cannot stand second in a digit run either. -/
theorem not_denotes_of_second (small : radix ≤ 16) {c c' : Char} {cs : List Char} {m : Nat}
    (outside : c'.toLower.toNat < 48 ∨ 102 < c'.toLower.toNat) :
    ¬ Denotes radix (c :: c' :: cs) m := by
  rintro ⟨_ | ⟨d, _ | ⟨d', ds⟩⟩, each, -, -⟩
  · cases each
  · cases (List.forall₂_cons.mp each).2
  · exact not_isDigit_of_toLower small outside d'
      (List.forall₂_cons.mp (List.forall₂_cons.mp each).2).1

end Digits

section Words

variable {radix : Nat}

/-- A digit run read and then checked against a bound. -/
theorem digits_guard_eq_some_iff {β : Type} (small : radix ≤ 16) (cs : List Char)
    (P : Nat → Prop) [DecidablePred P] (f : Nat → β) (b : β) :
    ((digits radix cs).bind fun v => if P v then some (f v) else none) = some b ↔
      ∃ m, Denotes radix cs m ∧ P m ∧ f m = b := by
  rw [Option.bind_eq_some_iff]
  constructor
  · rintro ⟨m, found, guarded⟩
    split at guarded
    · cases guarded
      exact ⟨m, (digits_eq_some_iff small _ _).mp found, ‹_›, rfl⟩
    · cases guarded
  · rintro ⟨m, denotes, holds, rfl⟩
    exact ⟨m, (digits_eq_some_iff small _ _).mpr denotes, if_pos holds⟩

theorem digits_below_eq_some_iff (small : radix ≤ 16) (cs : List Char) (m : Nat) :
    ((digits radix cs).bind fun v => if v < Nat.pow 2 64 then some v else none) = some m ↔
      Denotes radix cs m ∧ m < 2 ^ 64 := by
  rw [digits_guard_eq_some_iff small cs (fun v => v < Nat.pow 2 64) (fun v => v)]
  constructor
  · rintro ⟨m, denotes, fits, rfl⟩
    exact ⟨denotes, fits⟩
  · rintro ⟨denotes, fits⟩
    exact ⟨m, denotes, fits, rfl⟩

theorem unsigned_eq_some_iff (small : radix ≤ 16) (cs : List Char) (m : Nat) :
    unsigned radix cs = some m ↔ DenotesUnsigned radix cs m ∧ m < 2 ^ 64 := by
  unfold unsigned DenotesUnsigned
  split
  · rw [digits_below_eq_some_iff small]
    simp [not_denotes_plus small]
  · rename_i noPlus
    have unsigned : ¬ ∃ rest, cs = '+' :: rest ∧ Denotes radix rest m :=
      fun ⟨rest, split, _⟩ => noPlus rest split
    rw [digits_below_eq_some_iff small, or_iff_left unsigned]

theorem signed_eq_some_iff (cs : List Char) (i : Int) :
    signed cs = some i ↔
      (∃ body m, cs = '-' :: body ∧ Denotes 10 body m ∧ m ≤ 2 ^ 63 ∧ i = -(m : Int)) ∨
        ∃ m, DenotesUnsigned 10 cs m ∧ m < 2 ^ 63 ∧ i = m := by
  have ten : (10 : Nat) ≤ 16 := by decide
  unfold signed DenotesUnsigned
  split
  · rename_i rest
    rw [digits_guard_eq_some_iff ten rest (fun v => v ≤ Nat.pow 2 63) (fun v => -(v : Int))]
    constructor
    · rintro ⟨m, denotes, fits, rfl⟩
      exact .inl ⟨rest, m, rfl, denotes, fits, rfl⟩
    · rintro (⟨body, m, split, denotes, fits, rfl⟩ | ⟨m, denotes | ⟨_, split, _⟩, -, -⟩)
      · obtain ⟨-, rfl⟩ := List.cons.inj split
        exact ⟨m, denotes, fits, rfl⟩
      · exact absurd denotes (not_denotes_minus ten)
      · exact absurd (List.cons.inj split).1 (by decide)
  · rename_i rest
    rw [digits_guard_eq_some_iff ten rest (fun v => v < Nat.pow 2 63) (fun v => (v : Int))]
    constructor
    · rintro ⟨m, denotes, fits, rfl⟩
      exact .inr ⟨m, .inr ⟨rest, rfl, denotes⟩, fits, rfl⟩
    · rintro (⟨body, m, split, -⟩ | ⟨m, denotes | ⟨body, split, denotes⟩, fits, rfl⟩)
      · exact absurd (List.cons.inj split).1 (by decide)
      · exact absurd denotes (not_denotes_plus ten)
      · obtain ⟨-, rfl⟩ := List.cons.inj split
        exact ⟨m, denotes, fits, rfl⟩
  · rename_i noMinus noPlus
    rw [digits_guard_eq_some_iff ten cs (fun v => v < Nat.pow 2 63) (fun v => (v : Int))]
    constructor
    · rintro ⟨m, denotes, fits, rfl⟩
      exact .inr ⟨m, .inl denotes, fits, rfl⟩
    · rintro (⟨body, m, split, -⟩ | ⟨m, denotes | ⟨body, split, -⟩, fits, rfl⟩)
      · exact absurd split (noMinus body)
      · exact ⟨m, denotes, fits, rfl⟩
      · exact absurd split (noPlus body)

theorem toNat_ofInt_natCast {m : Nat} (fits : m ≤ 2 ^ 63) : (UInt64.ofInt (m : Int)).toNat = m := by
  simp only [UInt64.ofInt, UInt64.toNat_ofNat']
  omega

theorem toNat_ofInt_neg {m : Nat} (fits : m < 2 ^ 63) :
    (UInt64.ofInt (-(m : Int))).toNat = (2 ^ 64 - m) % 2 ^ 64 := by
  simp only [UInt64.ofInt, UInt64.toNat_ofNat']
  omega

/-- The word of an unsigned run. -/
theorem unsigned_word_eq_some_iff (small : radix ≤ 16) (body : List Char) (v : UInt64) :
    (unsigned radix body).map UInt64.ofNat = some v ↔ DenotesUnsigned radix body v.toNat := by
  rw [Option.map_eq_some_iff]
  constructor
  · rintro ⟨m, found, rfl⟩
    obtain ⟨denotes, fits⟩ := (unsigned_eq_some_iff small body m).mp found
    rwa [UInt64.toNat_ofNat', Nat.mod_eq_of_lt fits]
  · intro denotes
    refine ⟨v.toNat, (unsigned_eq_some_iff small body _).mpr ⟨denotes, v.toNat_lt⟩, ?_⟩
    exact UInt64.ofNat_toNat

/-- The word of the text after a `-`: the two's complement of a signed decimal's negation. -/
theorem negated_word_eq_some_iff (magnitude : List Char) (v : UInt64) :
    (signed magnitude).map (fun i => UInt64.ofInt (-i)) = some v ↔
      (∃ m, DenotesUnsigned 10 magnitude m ∧ m < 2 ^ 63 ∧ v.toNat = (2 ^ 64 - m) % 2 ^ 64) ∨
        ∃ body, magnitude = '-' :: body ∧ Denotes 10 body v.toNat ∧ v.toNat ≤ 2 ^ 63 := by
  rw [Option.map_eq_some_iff]
  constructor
  · rintro ⟨i, found, rfl⟩
    rcases (signed_eq_some_iff magnitude i).mp found with
      ⟨body, m, rfl, denotes, fits, rfl⟩ | ⟨m, denotes, fits, rfl⟩
    · rw [neg_neg]
      exact .inr ⟨body, rfl, by rwa [toNat_ofInt_natCast fits], by rwa [toNat_ofInt_natCast fits]⟩
    · exact .inl ⟨m, denotes, fits, toNat_ofInt_neg fits⟩
  · rintro (⟨m, denotes, fits, value⟩ | ⟨body, rfl, denotes, fits⟩)
    · refine ⟨m, (signed_eq_some_iff _ _).mpr (.inr ⟨m, denotes, fits, rfl⟩), ?_⟩
      rw [← UInt64.toNat_inj, toNat_ofInt_neg fits, value]
    · refine ⟨-(v.toNat : Int),
        (signed_eq_some_iff _ _).mpr (.inl ⟨body, v.toNat, rfl, denotes, fits, rfl⟩), ?_⟩
      rw [neg_neg, ← UInt64.toNat_inj, toNat_ofInt_natCast fits]

end Words

section Literals

theorem not_denotesUnsigned_hex {marker : Char} {body : List Char} {m : Nat}
    (outside : marker.toLower.toNat < 48 ∨ 102 < marker.toLower.toNat) :
    ¬ DenotesUnsigned 10 ('0' :: marker :: body) m := by
  rintro (denotes | ⟨rest, split, -⟩)
  · exact not_denotes_of_second (by decide) outside denotes
  · exact absurd (List.cons.inj split).1 (by decide)

theorem not_denotesUnsigned_minus {body : List Char} {m : Nat} :
    ¬ DenotesUnsigned 10 ('-' :: body) m := by
  rintro (denotes | ⟨rest, split, -⟩)
  · exact not_denotes_minus (by decide) denotes
  · exact absurd (List.cons.inj split).1 (by decide)

theorem denoted_hex {marker : Char} (isMarker : marker = 'x' ∨ marker = 'X') (body : List Char)
    (v : UInt64) : Denoted ('0' :: marker :: body) v ↔ DenotesUnsigned 16 body v.toNat := by
  have outside : marker.toLower.toNat < 48 ∨ 102 < marker.toLower.toNat := by
    rcases isMarker with rfl | rfl <;> decide
  constructor
  · rintro (⟨body', split | split, denotes⟩ | ⟨_, _, split, -⟩ | ⟨_, split, -⟩ | denotes)
    · rwa [(List.cons.inj (List.cons.inj split).2).2]
    · rwa [(List.cons.inj (List.cons.inj split).2).2]
    · exact absurd (List.cons.inj split).1 (by decide)
    · exact absurd (List.cons.inj split).1 (by decide)
    · exact absurd denotes (not_denotesUnsigned_hex outside)
  · intro denotes
    refine .inl ⟨body, ?_, denotes⟩
    rcases isMarker with rfl | rfl
    · exact .inl rfl
    · exact .inr rfl

theorem denoted_minus (magnitude : List Char) (v : UInt64) :
    Denoted ('-' :: magnitude) v ↔
      (∃ m, DenotesUnsigned 10 magnitude m ∧ m < 2 ^ 63 ∧ v.toNat = (2 ^ 64 - m) % 2 ^ 64) ∨
        ∃ body, magnitude = '-' :: body ∧ Denotes 10 body v.toNat ∧ v.toNat ≤ 2 ^ 63 := by
  constructor
  · rintro (⟨_, split | split, -⟩ | ⟨body, m, split, denotes, fits, value⟩ |
        ⟨body, split, denotes, fits⟩ | denotes)
    · exact absurd (List.cons.inj split).1 (by decide)
    · exact absurd (List.cons.inj split).1 (by decide)
    · rw [(List.cons.inj split).2]
      exact .inl ⟨m, denotes, fits, value⟩
    · exact .inr ⟨body, (List.cons.inj split).2, denotes, fits⟩
    · exact absurd denotes not_denotesUnsigned_minus
  · rintro (⟨m, denotes, fits, value⟩ | ⟨body, rfl, denotes, fits⟩)
    · exact .inr (.inl ⟨magnitude, m, rfl, denotes, fits, value⟩)
    · exact .inr (.inr (.inl ⟨body, rfl, denotes, fits⟩))

theorem denoted_decimal {cs : List Char} (noHex : ∀ body, cs ≠ '0' :: 'x' :: body ∧ cs ≠ '0' :: 'X' :: body)
    (noMinus : ∀ body, cs ≠ '-' :: body) (v : UInt64) :
    Denoted cs v ↔ DenotesUnsigned 10 cs v.toNat := by
  constructor
  · rintro (⟨body, split | split, -⟩ | ⟨body, _, split, -⟩ | ⟨body, split, -⟩ | denotes)
    · exact absurd split (noHex body).1
    · exact absurd split (noHex body).2
    · exact absurd split (noMinus body)
    · exact absurd split (noMinus _)
    · exact denotes
  · exact fun denotes => .inr (.inr (.inr denotes))

/-- The literals `parseChars` accepts are exactly the denoted ones, with their words. -/
theorem parseChars_eq_some_iff (cs : List Char) (v : UInt64) :
    parseChars cs = some v ↔ Denoted cs v := by
  unfold parseChars
  split
  · rw [unsigned_word_eq_some_iff (by decide), denoted_hex (.inl rfl)]
  · rw [unsigned_word_eq_some_iff (by decide), denoted_hex (.inr rfl)]
  · rw [negated_word_eq_some_iff, denoted_minus]
  · rename_i noLowerHex noUpperHex noMinus
    rw [unsigned_word_eq_some_iff (by decide), denoted_decimal ?_ noMinus]
    exact fun body => ⟨noLowerHex body, noUpperHex body⟩

/-- The literals `parse` accepts are exactly the denoted ones, with their words. -/
theorem parse_eq_some_iff (s : String) (v : UInt64) : parse s = some v ↔ Denoted s.toList v :=
  parseChars_eq_some_iff s.toList v

end Literals

section Renderings

variable {radix : Nat}

theorem digitChar_isDigit (small : radix ≤ 16) {d : Nat} (below : d < radix) :
    IsDigit radix (Nat.digitChar d) d := by
  refine ⟨below, ?_⟩
  rw [← Char.toNat_inj, toNat_toLower, toNat_digitChar (by omega)]
  split_ifs <;> omega

/-- A number's own digits denote it. -/
theorem toDigits_denotes (two : 2 ≤ radix) (small : radix ≤ 16) (m : Nat) :
    Denotes radix (Nat.toDigits radix m) m := by
  induction m using Nat.strong_induction_on with
  | _ m ih =>
    rw [Nat.toDigits_eq_if (by omega)]
    split
    · exact ⟨[m], .cons (digitChar_isDigit small ‹_›) .nil, by simp, by simp⟩
    · -- the last digit is the remainder, the ones before it spell the quotient
      obtain ⟨ds, each, -, value⟩ := ih (m / radix) (Nat.div_lt_self (by omega) (by omega))
      have last := digitChar_isDigit small (Nat.mod_lt m (show radix > 0 by omega))
      refine ⟨ds ++ [m % radix], List.rel_append each (.cons last .nil), by simp, ?_⟩
      rw [List.reverse_append, List.reverse_singleton, List.singleton_append, Nat.ofDigits_cons,
        ← value]
      exact (Nat.mod_add_div m radix).symm

theorem denotes_unique (small : radix ≤ 16) {cs : List Char} {m m' : Nat}
    (first : Denotes radix cs m) (second : Denotes radix cs m') : m = m' := by
  rw [← digits_eq_some_iff small] at first second
  rw [first] at second
  exact Option.some.inj second

theorem toList_repr (n : Nat) : (Nat.repr n).toList = Nat.toDigits 10 n :=
  String.toList_ofList

/-- A decimal rendering denotes its own number and no other, with or without a sign. -/
theorem denotesUnsigned_toDigits_iff {n m : Nat} :
    DenotesUnsigned 10 (Nat.toDigits 10 n) m ↔ m = n := by
  have own := toDigits_denotes (by decide : 2 ≤ 10) (by decide) n
  constructor
  · rintro (denotes | ⟨rest, split, -⟩)
    · exact denotes_unique (by decide) denotes own
    · rw [split] at own
      exact absurd own (not_denotes_plus (by decide))
  · rintro rfl
    exact .inl own

theorem toDigits_ne_minus {n : Nat} {body : List Char} : Nat.toDigits 10 n ≠ '-' :: body :=
  fun split => not_denotes_minus (by decide)
    (split ▸ toDigits_denotes (by decide : 2 ≤ 10) (by decide) n)

/-- How a word reads as a signed 64-bit number: as itself below `2 ^ 63`, less `2 ^ 64` above. -/
theorem toInt_toInt64 (v : UInt64) :
    v.toInt64.toInt = if v.toNat < 2 ^ 63 then (v.toNat : Int) else (v.toNat : Int) - 2 ^ 64 := by
  have half : 2 * v.toNat < 2 ^ 64 ↔ v.toNat < 2 ^ 63 := by omega
  rw [← Int64.toInt_toBitVec, UInt64.toBitVec_toInt64, BitVec.toInt_eq_toNat_cond]
  simp only [UInt64.toNat_toBitVec, half, Nat.cast_pow, Nat.cast_ofNat]

/-- A word's decimal rendering reads back as the word. -/
theorem parse_decimal (v : UInt64) : parse (Nat.repr v.toNat) = some v := by
  rw [parse_eq_some_iff, toList_repr]
  exact .inr (.inr (.inr (denotesUnsigned_toDigits_iff.mpr rfl)))

/-- So does its `0x` hexadecimal rendering. -/
theorem parse_hex (v : UInt64) :
    parse ("0x" ++ String.ofList (Nat.toDigits 16 v.toNat)) = some v := by
  rw [parse_eq_some_iff]
  simp only [String.toList_append, String.toList_ofList]
  exact .inl ⟨_, .inl rfl, .inl (toDigits_denotes (by decide : 2 ≤ 16) (by decide) _)⟩

/-- The decimal rendering of a word read as a signed 64-bit number reads back as the word,
except for the least signed number, whose magnitude alone does not fit. -/
theorem parse_signed (v : UInt64) :
    parse (toString v.toInt64.toInt) = if v.toNat = 2 ^ 63 then none else some v := by
  rw [Int.toString_eq_repr, Int.repr_eq_if, toInt_toInt64]
  by_cases low : v.toNat < 2 ^ 63
  · rw [if_pos low, if_pos (by omega), if_neg (by omega), Int.toNat_natCast]
    exact parse_decimal v
  · have magnitude : (-((v.toNat : Int) - 2 ^ 64)).toNat = 2 ^ 64 - v.toNat := by omega
    have fits := v.toNat_lt
    have sign : "-".toList = ['-'] := rfl
    rw [if_neg low, if_neg (by omega), magnitude]
    split
    · rename_i least
      refine Option.eq_none_iff_forall_ne_some.mpr fun w found => ?_
      rw [parse_eq_some_iff, String.toList_append, toList_repr, sign, List.singleton_append] at found
      rcases (denoted_minus _ w).mp found with ⟨m, denotes, below, -⟩ | ⟨body, split, -⟩
      · rw [denotesUnsigned_toDigits_iff] at denotes
        omega
      · exact toDigits_ne_minus split
    · rw [parse_eq_some_iff, String.toList_append, toList_repr, sign, List.singleton_append]
      refine (denoted_minus _ v).mpr (.inl ⟨2 ^ 64 - v.toNat, ?_, by omega, by omega⟩)
      exact denotesUnsigned_toDigits_iff.mpr rfl

/-- Literals read as their grammar says, with one edge off: `parse` accepts exactly the denoted
literals, and reads back every word from its decimal and `0x` renderings and from its decimal
rendering as a signed number, save the least signed number. -/
theorem parse_reads_denoted_literals (s : String) (v : UInt64) :
    (parse s = some v ↔ Denoted s.toList v) ∧ parse (Nat.repr v.toNat) = some v ∧
      parse ("0x" ++ String.ofList (Nat.toDigits 16 v.toNat)) = some v ∧
      parse (toString v.toInt64.toInt) = if v.toNat = 2 ^ 63 then none else some v :=
  ⟨parse_eq_some_iff s v, parse_decimal v, parse_hex v, parse_signed v⟩

/-- The least signed number is not read from its decimal rendering, and two minus signs cancel. -/
theorem least_signed_literal_rejected :
    parse "-9223372036854775808" = none ∧ parse "--5" = some 5 :=
  ⟨by decide, by decide⟩

example : parse "0X+fF" = some 255 := by decide

end Renderings

end SyscallTables.Literal
