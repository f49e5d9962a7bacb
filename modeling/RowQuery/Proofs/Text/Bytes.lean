/-!
# Texts as bytes

The code of a character is a first byte and up to three more, each of which carries one digit of the
character's number in base 64. Codes are made so that the order of texts, character by character, is
the order of their bytes.
-/
namespace RowQuery.Text

/-- The bytes of a text, in UTF-8. -/
def bytes (s : String) : List UInt8 := s.toUTF8.data.toList

theorem bytes_eq_flatMap (s : String) : bytes s = s.toList.flatMap String.utf8EncodeChar := by
  rw [bytes, String.toUTF8_eq_toByteArray, ← String.utf8Encode_toList, List.utf8Encode,
    List.data_toByteArray]

namespace Utf8

/-! ## The code of one character -/

/-- A number without its last digits in base 64. -/
def above : (digits : Nat) → Nat → Nat
  | 0, n => n
  | k + 1, n => above k (n / 64)

/-- The bytes that carry the last digits of a number in base 64. -/
def continuation : (digits : Nat) → Nat → List UInt8
  | 0, _ => []
  | k + 1, n => continuation k (n / 64) ++ [UInt8.ofNat (n % 64 + 0x80)]

/-- How many bytes follow the first one in the code of a character. -/
def following (n : Nat) : Nat :=
  if n ≤ 0x7F then 0 else if n ≤ 0x7FF then 1 else if n ≤ 0xFFFF then 2 else 3

/-- What a first byte adds to the digits that it carries: it shows how many bytes follow. -/
def mark : (following : Nat) → Nat
  | 0 => 0
  | 1 => 0xC0
  | 2 => 0xE0
  | _ => 0xF0

/-- What the first byte of a code holds. -/
def leading (n : Nat) : Nat := mark (following n) + above (following n) n

theorem val_lt (c : Char) : c.val.toNat < 0x110000 := by
  rcases c.valid with low | high
  · exact Nat.lt_trans low (by decide)
  · exact high.2

theorem utf8EncodeChar_eq (c : Char) :
    String.utf8EncodeChar c =
      UInt8.ofNat (leading c.val.toNat) :: continuation (following c.val.toNat) c.val.toNat := by
  have bound := val_lt c
  unfold String.utf8EncodeChar leading following
  generalize c.val.toNat = n at *
  have second : n / 64 / 64 = n / 4096 := Nat.div_div_eq_div_mul ..
  have third : n / 4096 / 64 = n / 262144 := Nat.div_div_eq_div_mul ..
  dsimp only
  split
  · simp [mark, above, continuation]
  split
  · have lead : n / 64 % 0x20 + 0xC0 = 0xC0 + n / 64 := by omega
    rw [lead]
    rfl
  split
  · have lead : n / 4096 % 0x10 + 0xE0 = 0xE0 + n / 64 / 64 := by omega
    rw [lead]
    rfl
  · have lead : n / 262144 % 0x8 + 0xF0 = 0xF0 + n / 64 / 64 / 64 := by omega
    rw [lead, ← second]
    rfl

theorem ofNat_lt_ofNat {a b : Nat} (less : a < b) (bound : b < 256) :
    UInt8.ofNat a < UInt8.ofNat b := by
  rw [UInt8.lt_iff_toNat_lt, UInt8.toNat_ofNat', UInt8.toNat_ofNat']
  omega

/-- Of two numbers that agree above their last digits, the smaller one has the smaller digits. -/
theorem continuation_append_lt (k : Nat) {m n : Nat} (less : m < n) (same : above k m = above k n)
    (left right : List UInt8) : continuation k m ++ left < continuation k n ++ right := by
  induction k generalizing m n left right with
  | zero => exact absurd same (Nat.ne_of_lt less)
  | succ k ih =>
    rw [continuation, continuation, List.append_assoc, List.append_assoc]
    rcases Nat.lt_or_ge (m / 64) (n / 64) with higher | lower
    · exact ih higher same _ _
    · have equal : m / 64 = n / 64 := by omega
      rw [equal]
      apply List.append_left_lt
      exact List.cons_lt_cons_iff.2 (Or.inl (ofNat_lt_ofNat (by omega) (by omega)))

theorem leading_lt (n : Nat) (bound : n < 0x110000) : leading n < 256 := by
  unfold leading following
  repeat' split
  all_goals simp only [mark, above]; omega

/-- First bytes are in the order of the numbers; they are the same only where as much follows. -/
theorem leading_order {m n : Nat} (less : m < n) (bound : n < 0x110000) :
    leading m < leading n ∨ leading m = leading n ∧ following m = following n ∧
      above (following m) m = above (following m) n := by
  unfold leading following
  repeat' split
  all_goals simp only [mark, above, true_and]; omega

/-- The smaller character has the smaller code, whatever follows the codes. -/
theorem utf8EncodeChar_append_lt {c d : Char} (less : c < d) (left right : List UInt8) :
    String.utf8EncodeChar c ++ left < String.utf8EncodeChar d ++ right := by
  have less : c.val.toNat < d.val.toNat := less
  rw [utf8EncodeChar_eq, utf8EncodeChar_eq, List.cons_append, List.cons_append,
    List.cons_lt_cons_iff]
  rcases leading_order less (val_lt d) with first | ⟨first, same, upper⟩
  · exact Or.inl (ofNat_lt_ofNat first (leading_lt _ (val_lt d)))
  · refine Or.inr ⟨congrArg UInt8.ofNat first, ?_⟩
    rw [same] at upper ⊢
    exact continuation_append_lt _ less upper left right

end Utf8

/-! ## Order -/

theorem flatMap_utf8EncodeChar_lt {s t : List Char} (less : s < t) :
    s.flatMap String.utf8EncodeChar < t.flatMap String.utf8EncodeChar := by
  induction less with
  | nil =>
    rw [List.flatMap_nil, List.flatMap_cons, Utf8.utf8EncodeChar_eq]
    exact List.nil_lt_cons _ _
  | rel less => exact Utf8.utf8EncodeChar_append_lt less _ _
  | cons _ ih => exact List.append_left_lt ih

theorem bytes_lt {s t : String} (less : s < t) : bytes s < bytes t := by
  rw [bytes_eq_flatMap, bytes_eq_flatMap]
  exact flatMap_utf8EncodeChar_lt less

/-- The order of texts is the order of their bytes. -/
theorem bytes_le_iff (s t : String) : bytes s ≤ bytes t ↔ s ≤ t := by
  constructor
  · intro le
    rw [← String.not_lt]
    intro less
    exact le (bytes_lt less)
  · intro le less
    rcases Decidable.em (s = t) with rfl | apart
    · exact List.lt_irrefl _ less
    · have smaller : s < t := by
        rw [← String.not_le]
        exact fun ge => apart (String.le_antisymm le ge)
      exact List.lt_asymm less (bytes_lt smaller)

end RowQuery.Text
