import SyscallTables.Proofs.Json.Scalars

namespace SyscallTables

/-! The order of strings is the order of their UTF-8 bytes. A character's encoding is a lead
byte, whose range gives the length, then continuation bytes of six bits each, high bits first.
Of two characters the smaller therefore has the smaller encoding: a shorter encoding has a
smaller lead byte, and encodings of one length spell their code points as numbers, byte by
byte. Comparing strings character by character compares their bytes. -/

/-- The number a list of bytes spells, the first byte most significant. -/
def bytesValue : List UInt8 → Nat
  | [] => 0
  | b :: bs => b.toNat * Nat.pow 256 bs.length + bytesValue bs

theorem bytesValue_lt (bs : List UInt8) : bytesValue bs < Nat.pow 256 bs.length := by
  induction bs with
  | nil => decide
  | cons b bs ih =>
    have byte : b.toNat < 256 := b.toNat_lt
    calc bytesValue (b :: bs) = b.toNat * Nat.pow 256 bs.length + bytesValue bs := rfl
      _ < (b.toNat + 1) * Nat.pow 256 bs.length := by rw [Nat.succ_mul]; omega
      _ ≤ 256 * Nat.pow 256 bs.length := Nat.mul_le_mul_right _ byte
      _ = Nat.pow 256 (b :: bs).length := Nat.mul_comm _ _

/-- Byte lists of one length compare as the numbers they spell, whatever follows each. -/
theorem append_lt_of_bytesValue_lt {bs cs : List UInt8} (same : bs.length = cs.length)
    (less : bytesValue bs < bytesValue cs) (x y : List UInt8) : bs ++ x < cs ++ y := by
  induction bs generalizing cs with
  | nil => cases cs <;> simp_all [bytesValue]
  | cons b bs ih =>
    cases cs with
    | nil => simp at same
    | cons c cs =>
      have sameRest : bs.length = cs.length := by simpa using same
      have restB := bytesValue_lt bs
      have restC := bytesValue_lt cs
      simp only [bytesValue] at less
      rw [sameRest] at less restB
      -- the first bytes decide, unless they are equal
      rcases Nat.lt_trichotomy b.toNat c.toNat with lower | equal | higher
      · exact List.Lex.rel (UInt8.lt_iff_toNat_lt.mpr lower)
      · have bc : b = c := UInt8.toNat_inj.mp equal
        subst bc
        exact List.Lex.cons (ih sameRest (by omega))
      · have : (c.toNat + 1) * Nat.pow 256 cs.length ≤ b.toNat * Nat.pow 256 cs.length :=
          Nat.mul_le_mul_right _ higher
        rw [Nat.succ_mul] at this
        omega

/-- The encoding of a smaller character is smaller, whatever follows each. -/
theorem utf8EncodeChar_append_lt {c d : Char} (less : c < d) (x y : List UInt8) :
    String.utf8EncodeChar c ++ x < String.utf8EncodeChar d ++ y := by
  have order : c.val.toNat < d.val.toNat := less
  have valid := d.valid
  simp only [UInt32.isValidChar, Nat.isValidChar] at valid
  dsimp only [String.utf8EncodeChar]
  -- one case per pair of lengths, a longer encoding never belonging to the smaller character;
  -- lengths that differ are told apart by the lead bytes
  split_ifs <;> try omega
  · exact List.Lex.rel (by simp only [UInt8.lt_iff_toNat_lt, UInt8.toNat_ofNat']; omega)
  · exact List.Lex.rel (by simp only [UInt8.lt_iff_toNat_lt, UInt8.toNat_ofNat']; omega)
  · exact List.Lex.rel (by simp only [UInt8.lt_iff_toNat_lt, UInt8.toNat_ofNat']; omega)
  · exact List.Lex.rel (by simp only [UInt8.lt_iff_toNat_lt, UInt8.toNat_ofNat']; omega)
  · refine append_lt_of_bytesValue_lt (by rfl) ?_ x y
    simp (disch := omega) only [bytesValue, UInt8.toNat_ofNat', List.length_cons,
      List.length_nil, Nat.zero_add, Nat.pow_eq, Nat.reducePow, Nat.mod_eq_of_lt]
    omega
  · exact List.Lex.rel (by simp only [UInt8.lt_iff_toNat_lt, UInt8.toNat_ofNat']; omega)
  · exact List.Lex.rel (by simp only [UInt8.lt_iff_toNat_lt, UInt8.toNat_ofNat']; omega)
  · refine append_lt_of_bytesValue_lt (by rfl) ?_ x y
    simp (disch := omega) only [bytesValue, UInt8.toNat_ofNat', List.length_cons,
      List.length_nil, Nat.zero_add, Nat.reduceAdd, Nat.pow_eq, Nat.reducePow, Nat.mod_eq_of_lt]
    omega
  · exact List.Lex.rel (by simp only [UInt8.lt_iff_toNat_lt, UInt8.toNat_ofNat']; omega)
  · refine append_lt_of_bytesValue_lt (by rfl) ?_ x y
    simp (disch := omega) only [bytesValue, UInt8.toNat_ofNat', List.length_cons,
      List.length_nil, Nat.zero_add, Nat.reduceAdd, Nat.pow_eq, Nat.reducePow, Nat.mod_eq_of_lt]
    omega

theorem append_lt_append_left (p : List UInt8) {x y : List UInt8} (less : x < y) :
    p ++ x < p ++ y := by
  induction p with
  | nil => exact less
  | cons b p ih => exact List.Lex.cons ih

/-- Character lists compare as their encodings do. -/
theorem flatMap_utf8EncodeChar_lt {l₁ l₂ : List Char} (less : l₁ < l₂) :
    l₁.flatMap String.utf8EncodeChar < l₂.flatMap String.utf8EncodeChar := by
  induction less with
  | nil =>
    rename_i c _
    -- an encoding is never empty
    cases encoded : String.utf8EncodeChar c with
    | nil =>
      have length := String.length_utf8EncodeChar c
      rw [encoded] at length
      exact absurd length.symm (Nat.ne_of_gt (Char.utf8Size_pos c))
    | cons b bs => simp [encoded]
  | rel smaller => exact utf8EncodeChar_append_lt smaller _ _
  | cons _ ih => exact append_lt_append_left _ ih

/-- Strings compare as their UTF-8 bytes do. -/
theorem toUTF8_lt_iff (s t : String) : s.toUTF8.toList < t.toUTF8.toList ↔ s < t := by
  have encoded : ∀ {s t : String}, s < t → s.toUTF8.toList < t.toUTF8.toList := fun less => by
    rw [← Json.textBytes, ← Json.textBytes, Json.textBytes_eq, Json.textBytes_eq]
    exact flatMap_utf8EncodeChar_lt less
  refine ⟨fun bytes => ?_, encoded⟩
  -- otherwise the bytes of `t` would come first, or be the same
  by_cases reversed : t < s
  · exact absurd bytes (List.lt_asymm (encoded reversed))
  · by_cases forward : s < t
    · exact forward
    · have same : s = t := String.le_antisymm reversed forward
      subst same
      exact absurd bytes (List.lt_irrefl _)

end SyscallTables
