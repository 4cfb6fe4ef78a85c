import Mathlib.Tactic.SplitIfs
import SyscallTables.Json.Writer

namespace SyscallTables.Json

/-! Reading back what the writer writes, for the texts that hold no nesting: a string in quotes
reads back as itself, whatever characters it holds, and a natural number below `2 ^ 64` as
itself, when followed by anything that cannot continue it. Reading walks UTF-8 bytes, so the
statements are about the bytes of the written text. -/

theorem ByteArray.toList_loop (bs : ByteArray) (i : Nat) (r : List UInt8) :
    ByteArray.toList.loop bs i r = r.reverse ++ bs.data.toList.drop i := by
  fun_induction ByteArray.toList.loop bs i r with
  | case1 i r below ih =>
    have inside : i < bs.data.toList.length := by simpa using below
    rw [ih, List.drop_eq_getElem_cons inside]
    simp [ByteArray.get!, getElem!_pos bs.data i below]
  | case2 i r above =>
    rw [List.drop_eq_nil_of_le (by simpa using Nat.le_of_not_lt above)]
    simp

/-- The UTF-8 bytes of a text, as reading walks them. -/
def textBytes (s : String) : List UInt8 := s.toUTF8.toList

theorem textBytes_eq (s : String) : textBytes s = s.toList.flatMap String.utf8EncodeChar := by
  have loop := ByteArray.toList_loop s.toUTF8 0 []
  rw [textBytes, ByteArray.toList, loop, String.toUTF8_eq_toByteArray, ← String.utf8Encode_toList,
    List.utf8Encode, List.toList_data_toByteArray]
  simp

@[simp] theorem textBytes_append (s t : String) :
    textBytes (s ++ t) = textBytes s ++ textBytes t := by
  simp [textBytes_eq]

@[simp] theorem textBytes_ofList (cs : List Char) :
    textBytes (String.ofList cs) = cs.flatMap String.utf8EncodeChar := by
  simp [textBytes_eq]

theorem fromUTF8?_textBytes (s : String) : String.fromUTF8? ⟨(textBytes s).toArray⟩ = some s := by
  have same : (⟨(textBytes s).toArray⟩ : ByteArray) = s.toByteArray := by
    have loop := ByteArray.toList_loop s.toUTF8 0 []
    simp only [textBytes, ByteArray.toList, loop]
    simp
  rw [same]
  simp [String.fromUTF8?, String.fromUTF8, s.isValidUTF8]

theorem codePointBytes_eq (n : Nat) :
    codePointBytes n = String.utf8EncodeChar (Char.ofNat n) := by
  rw [codePointBytes, ← textBytes, textBytes_eq]
  simp

/-! ## Strings -/

/-- A byte a string holds as it is: no control character, quote or backslash. -/
def Plain (b : UInt8) : Prop := 32 ≤ b.toNat ∧ b ≠ 34 ∧ b ≠ 92

theorem readStringBytes_plain_cons {b : UInt8} (plain : Plain b) (acc : List UInt8) (i : Nat)
    (rest : List UInt8) :
    readStringBytes acc i (b :: rest) = readStringBytes (b :: acc) (i + 1) rest := by
  obtain ⟨low, notQuote, notBackslash⟩ := plain
  have printable : ¬ b < 32 := by rw [UInt8.lt_iff_toNat_lt]; simpa using low
  rw [readStringBytes]
  split <;> simp_all
  -- the match leaves the default case's exclusions of the quote and the backslash
  · exact notQuote
  · exact notBackslash

theorem readStringBytes_plain (acc : List UInt8) (i : Nat) (bs rest : List UInt8)
    (plain : ∀ b ∈ bs, Plain b) :
    readStringBytes acc i (bs ++ rest) =
      readStringBytes (bs.reverse ++ acc) (i + bs.length) rest := by
  induction bs generalizing acc i with
  | nil => simp
  | cons b bs ih =>
    rw [List.cons_append, readStringBytes_plain_cons (plain b (by simp)),
      ih _ _ fun b' member => plain b' (by simp [member])]
    simp [Nat.add_assoc, Nat.add_comm 1]

theorem utf8EncodeChar_plain {c : Char} (low : 32 ≤ c.toNat) (notQuote : c ≠ '"')
    (notBackslash : c ≠ '\\') : ∀ b ∈ String.utf8EncodeChar c, Plain b := by
  have high : ∀ x k : UInt8, 128 ≤ k.toNat → Plain (x ||| k) := by
    intro x k big
    have above : 128 ≤ (x ||| k).toNat := by
      rw [UInt8.toNat_or]
      exact Nat.le_trans big Nat.right_le_or
    refine ⟨by omega, fun same => ?_, fun same => ?_⟩ <;> simp [same] at above
  match size : c.utf8Size, c.utf8Size_pos, c.utf8Size_le_four with
  | 1, _, _ =>
    have small : c.toNat < 128 := by
      have bounded := Char.utf8Size_eq_one_iff.mp size
      rw [UInt32.le_iff_toNat_le, Char.toNat_val] at bounded
      simp only [UInt32.reduceToNat] at bounded
      omega
    rw [String.utf8EncodeChar_eq_singleton size]
    intro b member
    rw [List.mem_singleton] at member
    subst member
    have same : c.val.toUInt8.toNat = c.toNat := by
      rw [UInt32.toNat_toUInt8, Char.toNat_val]
      omega
    refine ⟨by omega, fun quote => notQuote ?_, fun backslash => notBackslash ?_⟩
    · exact Char.toNat_inj.mp (by rw [← same, quote]; rfl)
    · exact Char.toNat_inj.mp (by rw [← same, backslash]; rfl)
  | 2, _, _ =>
    rw [String.utf8EncodeChar_eq_cons_cons size]
    simp only [List.mem_cons, List.not_mem_nil, or_false]
    rintro b (rfl | rfl) <;> exact high _ _ (by decide)
  | 3, _, _ =>
    rw [String.utf8EncodeChar_eq_cons_cons_cons size]
    simp only [List.mem_cons, List.not_mem_nil, or_false]
    rintro b (rfl | rfl | rfl) <;> exact high _ _ (by decide)
  | 4, _, _ =>
    rw [String.utf8EncodeChar_eq_cons_cons_cons_cons size]
    simp only [List.mem_cons, List.not_mem_nil, or_false]
    rintro b (rfl | rfl | rfl | rfl) <;> exact high _ _ (by decide)

/-- A control character without a short form is written as four hexadecimal digits, which read
back as its code. -/
theorem hex_escape : ∀ n < 32,
    ['\\', 'u', '0', '0', hexChar (n / 16), hexChar (n % 16)].flatMap String.utf8EncodeChar =
      [92, 117, 48, 48, (hexChar (n / 16)).toNat.toUInt8, (hexChar (n % 16)).toNat.toUInt8] ∧
    hex4 48 48 (hexChar (n / 16)).toNat.toUInt8 (hexChar (n % 16)).toNat.toUInt8 = some n := by
  decide

/-- Reading the escaped form of a character gives back its bytes. -/
theorem readStringBytes_escapeChar (c : Char) (acc : List UInt8) (i : Nat) (rest : List UInt8) :
    readStringBytes acc i ((escapeChar c).flatMap String.utf8EncodeChar ++ rest) =
      readStringBytes ((String.utf8EncodeChar c).reverse ++ acc)
        (i + ((escapeChar c).flatMap String.utf8EncodeChar).length) rest := by
  unfold escapeChar
  split_ifs with quote backslash newline carriage tab backspace formFeed control
  · subst quote; rfl
  · subst backslash; rfl
  · subst newline; rfl
  · subst carriage; rfl
  · subst tab; rfl
  · subst backspace; rfl
  · subst formFeed; rfl
  · obtain ⟨written, decoded⟩ := hex_escape c.toNat control
    have code : c.toNat < 0xD800 := by omega
    rw [written]
    simp only [List.cons_append, List.nil_append, readStringBytes, decoded, isTrailing,
      isLeading, codePointBytes_eq, Char.ofNat_toNat]
    have notTrailing : ¬ 56320 ≤ c.toNat := by omega
    simp [code, notTrailing]
  · simp only [List.flatMap_cons, List.flatMap_nil, List.append_nil]
    exact readStringBytes_plain _ _ _ _ (utf8EncodeChar_plain (by omega) quote backslash)

/-- The bytes written between the quotes of a string. -/
def escapedBytes (s : String) : List UInt8 :=
  (s.toList.flatMap escapeChar).flatMap String.utf8EncodeChar

theorem textBytes_quote (s : String) : textBytes (quote s) = 34 :: escapedBytes s ++ [34] := by
  rw [quote, textBytes_ofList, escapedBytes]
  simp only [List.flatMap_cons, List.flatMap_append, List.flatMap_nil, List.append_nil]
  rfl

theorem readStringBytes_escaped (cs : List Char) (acc : List UInt8) (i : Nat)
    (rest : List UInt8) :
    readStringBytes acc i ((cs.flatMap escapeChar).flatMap String.utf8EncodeChar ++ 34 :: rest) =
      .ok (acc.reverse ++ cs.flatMap String.utf8EncodeChar,
        ⟨rest, i + ((cs.flatMap escapeChar).flatMap String.utf8EncodeChar).length + 1⟩) := by
  induction cs generalizing acc i with
  | nil => simp [readStringBytes]
  | cons c cs ih =>
    rw [List.flatMap_cons, List.flatMap_append, List.append_assoc, readStringBytes_escapeChar, ih]
    simp [Nat.add_assoc]

/-- A written string reads back as itself. -/
theorem readString_escaped (s : String) (rest : List UInt8) (i : Nat) :
    readString ⟨escapedBytes s ++ 34 :: rest, i⟩ =
      .ok (s, ⟨rest, i + (escapedBytes s).length + 1⟩) := by
  simp only [readString, escapedBytes, readStringBytes_escaped, List.reverse_nil, List.nil_append,
    ← textBytes_eq, bind, Except.bind, pure, Except.pure, fromUTF8?_textBytes, Option.getD_some]

/-! ## Numbers -/

/-- What may follow a written number: nothing, or a byte that neither continues its digits nor
starts a fraction or an exponent. -/
def Stops : List UInt8 → Prop
  | [] => True
  | b :: _ => isDigit b = false ∧ b ≠ 46 ∧ b ≠ 101 ∧ b ≠ 69

theorem afterInteger_stops {rest : List UInt8} (stops : Stops rest) (n i : Nat) :
    afterInteger true n ⟨rest, i⟩ = .ok (.unsigned n, ⟨rest, i⟩) := by
  cases rest with
  | nil => rfl
  | cons b rest =>
    obtain ⟨-, point, lower, upper⟩ := stops
    simp only [afterInteger, Cursor.peek, List.head?_cons]
    split <;> simp_all [integerNumber]

theorem digit_bytes {c : Char} (digit : c.isDigit = true) :
    String.utf8EncodeChar c = [c.toNat.toUInt8] ∧ isDigit c.toNat.toUInt8 = true ∧
      c.toNat.toUInt8.toNat = c.toNat := by
  have range : 48 ≤ c.toNat ∧ c.toNat ≤ 57 := by
    simp only [Char.isDigit, Bool.and_eq_true, decide_eq_true_eq, UInt32.le_iff_toNat_le,
      Char.toNat_val] at digit
    simpa using digit
  have same : c.toNat.toUInt8.toNat = c.toNat := by
    simp only [Nat.toUInt8_eq, UInt8.toNat_ofNat', Nat.reducePow]
    omega
  have size : c.utf8Size = 1 := by
    rw [Char.utf8Size_eq_one_iff, UInt32.le_iff_toNat_le, Char.toNat_val]
    simp only [UInt32.reduceToNat]
    omega
  refine ⟨?_, ?_, same⟩
  · rw [String.utf8EncodeChar_eq_singleton size]
    congr 1
  · simp only [isDigit, Bool.and_eq_true, decide_eq_true_eq, UInt8.le_iff_toNat_le, same]
    simp only [UInt8.reduceToNat]
    omega

theorem le_ofDigitChars (ds : List Char) (init : Nat) : init ≤ Nat.ofDigitChars 10 ds init := by
  induction ds generalizing init with
  | nil => simp
  | cons d ds ih =>
    rw [Nat.ofDigitChars_cons]
    exact Nat.le_trans (by omega) (ih _)

/-- Digits read while their number stays within 64 bits, up to the first byte that stops them. -/
theorem readIntegerDigits_digits (ds : List Char) (digits : ∀ d ∈ ds, d.isDigit = true)
    (sig : Nat) (fits : Nat.ofDigitChars 10 ds sig < Nat.pow 2 64) {rest : List UInt8}
    (stops : Stops rest) (i : Nat) :
    readIntegerDigits true sig ⟨ds.flatMap String.utf8EncodeChar ++ rest, i⟩ =
      .ok (.unsigned (Nat.ofDigitChars 10 ds sig), ⟨rest, i + ds.length⟩) := by
  induction ds generalizing sig i with
  | nil =>
    cases rest with
    | nil =>
      rw [readIntegerDigits.eq_2 _ _ _ (by simp)]
      exact afterInteger_stops stops sig i
    | cons b rest =>
      rw [List.flatMap_nil, List.nil_append, readIntegerDigits]
      simp only [stops.1, Bool.false_eq_true, if_false]
      exact afterInteger_stops stops sig i
  | cons d ds ih =>
    obtain ⟨bytes, isDigitByte, value⟩ := digit_bytes (digits d (by simp))
    have step : Nat.ofDigitChars 10 (d :: ds) sig =
        Nat.ofDigitChars 10 ds (sig * 10 + (d.toNat - 48)) := by
      rw [Nat.ofDigitChars_cons, Nat.mul_comm]
      rfl
    have inRange : ¬ sig * 10 + (d.toNat - 48) ≥ Nat.pow 2 64 := by
      have := le_ofDigitChars ds (sig * 10 + (d.toNat - 48))
      omega
    rw [List.flatMap_cons, bytes, List.singleton_append, List.cons_append, readIntegerDigits]
    simp only [isDigitByte, if_true, overflows, value, inRange, decide_false, Bool.false_eq_true,
      if_false]
    rw [ih (fun d' member => digits d' (by simp [member])) _ (by rwa [← step]), step]
    simp [Nat.add_assoc, Nat.add_comm 1]

theorem toDigits_head {n : Nat} (positive : 0 < n) :
    ∃ d ds, Nat.toDigits 10 n = d :: ds ∧ d ≠ '0' := by
  induction n using Nat.strongRecOn with
  | ind n ih =>
    by_cases small : n < 10
    · refine ⟨n.digitChar, [], Nat.toDigits_of_lt_base small, ?_⟩
      simp only [ne_eq, Nat.digitChar_eq_zero]
      omega
    · rw [Nat.toDigits_of_base_le (by decide) (by omega)]
      obtain ⟨d, ds, leading, nonzero⟩ := ih (n / 10) (by omega) (by omega)
      exact ⟨d, ds ++ [(n % 10).digitChar], by simp [leading], nonzero⟩

/-- A natural number within 64 bits, written in decimal, reads back as itself. -/
theorem readNumber_toString {n : Nat} (fits : n < Nat.pow 2 64) {rest : List UInt8}
    (stops : Stops rest) (i : Nat) :
    ∃ j, readNumber true ⟨textBytes (toString n) ++ rest, i⟩ = .ok (.unsigned n, ⟨rest, j⟩) := by
  have written : textBytes (toString n) = (Nat.toDigits 10 n).flatMap String.utf8EncodeChar := by
    rw [textBytes_eq, Nat.toString_eq_repr, Nat.toList_repr]
  rw [written]
  rcases Nat.eq_zero_or_pos n with zero | positive
  · subst zero
    refine ⟨i + 1, ?_⟩
    have zeroBytes : (Nat.toDigits 10 0).flatMap String.utf8EncodeChar = [48] := by decide
    rw [zeroBytes]
    cases rest with
    | nil => rfl
    | cons b rest =>
      simp only [readNumber, Cursor.peek, Cursor.next, List.cons_append, List.nil_append,
        List.head?_cons, List.tail_cons, stops.1, Bool.false_eq_true, if_false]
      exact afterInteger_stops stops 0 (i + 1)
  · obtain ⟨d, ds, leading, nonzero⟩ := toDigits_head positive
    have digits : ∀ c ∈ d :: ds, c.isDigit = true := fun c member =>
      Nat.isDigit_of_mem_toDigits (by decide) (by decide) (leading ▸ member)
    obtain ⟨bytes, isDigitByte, value⟩ := digit_bytes (digits d (by simp))
    have notZero : d.toNat.toUInt8 ≠ 48 := by
      intro zero
      apply nonzero
      apply Char.toNat_inj.mp
      rw [← value, zero]
      rfl
    have whole : Nat.ofDigitChars 10 ds (d.toNat - 48) = n := by
      have := Nat.ofDigitChars_ten_toDigits (n := n)
      rw [leading, Nat.ofDigitChars_cons] at this
      simpa using this
    refine ⟨i + 1 + ds.length, ?_⟩
    rw [leading, List.flatMap_cons, bytes, List.singleton_append, List.cons_append, readNumber]
    simp only [Cursor.peek, List.head?_cons, Cursor.next, List.tail_cons]
    split
    · rw [value, readIntegerDigits_digits ds (fun c member => digits c (by simp [member])) _
        (by rwa [whole]) stops, whole]
    · contradiction

theorem textBytes_toString_head (n : Nat) :
    ∃ b bs, textBytes (toString n) = b :: bs ∧ isDigit b = true := by
  obtain ⟨d, ds, leading⟩ : ∃ d ds, Nat.toDigits 10 n = d :: ds :=
    List.exists_cons_of_ne_nil Nat.toDigits_ne_nil
  have member : d ∈ Nat.toDigits 10 n := by simp [leading]
  have digit : d.isDigit = true := Nat.isDigit_of_mem_toDigits (by decide) (by decide) member
  obtain ⟨bytes, isDigitByte, -⟩ := digit_bytes digit
  refine ⟨d.toNat.toUInt8, ds.flatMap String.utf8EncodeChar, ?_, isDigitByte⟩
  rw [textBytes_eq, Nat.toString_eq_repr, Nat.toList_repr, leading, List.flatMap_cons, bytes]
  rfl

/-! ## Blanks -/

/-- Space, tab, line feed or carriage return: what reading steps over between tokens. -/
def Blank (b : UInt8) : Prop := b = 32 ∨ b = 9 ∨ b = 10 ∨ b = 13

theorem skipBlank_solid {b : UInt8} (solid : ¬ Blank b) (rest : List UInt8) (i : Nat) :
    Cursor.skipBlank ⟨b :: rest, i⟩ = ⟨b :: rest, i⟩ := by
  rw [Cursor.skipBlank.eq_1]
  simp only [Blank, not_or] at solid
  simp [solid]

theorem skipBlank_blank {b : UInt8} (blank : Blank b) (rest : List UInt8) (i : Nat) :
    Cursor.skipBlank ⟨b :: rest, i⟩ = Cursor.skipBlank ⟨rest, i + 1⟩ := by
  have skipped : (decide (b = 32) || decide (b = 9) || decide (b = 10) || decide (b = 13)) =
      true := by
    rcases blank with h | h | h | h <;> simp [h]
  rw [Cursor.skipBlank.eq_1, if_pos skipped]

/-- Blanks before a text are stepped over, the offset counting them. -/
theorem skipBlank_append {pre : List UInt8} (blanks : ∀ b ∈ pre, Blank b) (rest : List UInt8)
    (i : Nat) : Cursor.skipBlank ⟨pre ++ rest, i⟩ = Cursor.skipBlank ⟨rest, i + pre.length⟩ := by
  induction pre generalizing i with
  | nil => rfl
  | cons c pre ih =>
    rw [List.cons_append, skipBlank_blank (blanks c List.mem_cons_self),
      ih fun b member => blanks b (List.mem_cons_of_mem c member)]
    simp [Nat.add_assoc, Nat.add_comm 1]

theorem skipBlank_blanks {pre : List UInt8} (blanks : ∀ b ∈ pre, Blank b) {b : UInt8}
    (solid : ¬ Blank b) (rest : List UInt8) (i : Nat) :
    Cursor.skipBlank ⟨pre ++ b :: rest, i⟩ = ⟨b :: rest, i + pre.length⟩ := by
  rw [skipBlank_append blanks, skipBlank_solid solid]

end SyscallTables.Json
