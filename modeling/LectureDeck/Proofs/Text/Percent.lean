import LectureDeck.Text.Utf8

/-!
# Reading percent-encoded texts

A percent-encoded text tells the bytes that it was made from, and so the characters of the text
(`LectureDeck.Text.percentEncode_inj`).
-/

namespace LectureDeck.Text

/-- What a digit in base 16 is worth. -/
def hexValue (c : Char) : Nat := if c.toNat < 58 then c.toNat - 48 else c.toNat - 55

/-- The bytes that a percent-encoded text stands for. -/
def percentBytes : List Char → List UInt8
  | '%' :: high :: low :: rest =>
    UInt8.ofNat (16 * hexValue high + hexValue low) :: percentBytes rest
  | c :: rest => UInt8.ofNat c.toNat :: percentBytes rest
  | [] => []

theorem hexValue_hexCapital {n : Nat} (digit : n < 16) : hexValue (hexCapital n) = n := by
  have every : ∀ n < 16, hexValue (hexCapital n) = n := by decide
  exact every n digit

theorem percentBytes_percentByte (byte : UInt8) (rest : List Char) :
    percentBytes (percentByte byte ++ rest) = byte :: percentBytes rest := by
  have bounded : byte.toNat < 256 := byte.toNat_lt
  rw [percentByte, List.cons_append, List.cons_append, List.cons_append, List.nil_append,
    percentBytes, hexValue_hexCapital (by omega), hexValue_hexCapital (by omega), Nat.div_add_mod,
    UInt8.ofNat_toNat]

theorem percentBytes_flatMap (bytes : List UInt8) (rest : List Char) :
    percentBytes (bytes.flatMap percentByte ++ rest) = bytes ++ percentBytes rest := by
  induction bytes with
  | nil => rfl
  | cons byte others later =>
    rw [List.flatMap_cons, List.append_assoc, percentBytes_percentByte, later, List.cons_append]

theorem toNat_lt_of_isAlphanum {c : Char} (plain : c.isAlphanum = true) : c.toNat < 128 := by
  change (decide (c.val ≥ 65 ∧ c.val ≤ 90) || (decide (c.val ≥ 97) && decide (c.val ≤ 122)) ||
    (decide (c.val ≥ 48) && decide (c.val ≤ 57))) = true at plain
  simp only [Bool.or_eq_true, Bool.and_eq_true, decide_eq_true_eq] at plain
  have bounded : c.val ≤ 122 := by
    rcases plain with (upper | lower) | digit
    · exact UInt32.le_trans upper.2 (by decide)
    · exact lower.2
    · exact UInt32.le_trans digit.2 (by decide)
  exact Nat.lt_of_le_of_lt (UInt32.le_iff_toNat_le.1 bounded) (by decide)

theorem of_isUnreserved {c : Char} (plain : isUnreserved c = true) : c.toNat < 128 ∧ c ≠ '%' := by
  constructor
  · simp only [isUnreserved, Bool.or_eq_true, beq_iff_eq] at plain
    rcases plain with ((((alphanumeric | rfl) | rfl) | rfl) | rfl)
    · exact toNat_lt_of_isAlphanum alphanumeric
    all_goals decide
  · rintro rfl
    exact absurd plain (by decide)

/-- An unreserved character is one byte, and no percent sign. -/
theorem percentBytes_cons {c : Char} (plain : isUnreserved c = true) (rest : List Char) :
    percentBytes (c :: rest) = charBytes c ++ percentBytes rest := by
  obtain ⟨ascii, other⟩ := of_isUnreserved plain
  have small : c.val ≤ 127 := UInt32.le_iff_toNat_le.2 (Nat.le_of_lt_succ ascii)
  have single : charBytes c = [UInt8.ofNat c.toNat] :=
    String.utf8EncodeChar_eq_singleton (Char.utf8Size_eq_one_iff.2 small)
  rw [percentBytes.eq_2 c rest fun high low others percent _ => other percent, single,
    List.singleton_append]

/-- **A percent-encoded text tells its bytes.** -/
theorem percentBytes_percentEncode (cs : List Char) :
    percentBytes (percentEncode cs) = bytes cs := by
  induction cs with
  | nil => rfl
  | cons c rest later =>
    rw [percentEncode, List.flatMap_cons, ← percentEncode, bytes, List.flatMap_cons, ← bytes]
    split
    · rename_i plain
      rw [List.singleton_append, percentBytes_cons plain, later]
    · rw [percentBytes_flatMap, later]

/-- Bytes tell the characters that they are of. -/
theorem bytes_inj {first second : List Char} : bytes first = bytes second ↔ first = second := by
  constructor
  · intro same
    have encoded : first.utf8Encode = second.utf8Encode := congrArg List.toByteArray same
    have decoded := congrArg ByteArray.utf8Decode? encoded
    rw [List.utf8Decode?_utf8Encode, List.utf8Decode?_utf8Encode] at decoded
    exact List.toArray_inj (Option.some.inj decoded)
  · exact congrArg bytes

theorem percentEncode_inj {first second : List Char} :
    percentEncode first = percentEncode second ↔ first = second := by
  constructor
  · intro same
    have bytes := congrArg percentBytes same
    rw [percentBytes_percentEncode, percentBytes_percentEncode] at bytes
    exact bytes_inj.1 bytes
  · exact congrArg percentEncode

end LectureDeck.Text
