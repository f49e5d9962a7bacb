import RowQuery.Proofs.Text.Numeral
import RowQuery.Proofs.Value.Kind

/-!
# Written values

Only a text is ever written as the empty text: every other value has at least one character. This is
why a value that is no text counts as blank exactly when it is null.
-/
namespace RowQuery
open Text

theorem FloatText.positional_ne_nil (s : Shortest.Scientific) : positional s ≠ [] := by
  simp only [positional]
  split
  · simp [numeral_ne_nil]
  · split <;> simp

theorem FloatText.write_ne_nil {f : BinaryFormat} (x : Binary f) : write x ≠ [] := by
  simp only [write]
  split
  · simp
  · split <;> simp [positional_ne_nil]

theorem Decimal.write_ne_nil (x : Decimal) : x.write ≠ [] := by
  simp only [write]
  split
  · rename_i whole
    simp [whole, paddedNumeral_ne_nil]
  · simp

theorem CivilDate.write_ne_nil (d : CivilDate) : d.write ≠ [] := by
  simp [write]

theorem Clock.write_ne_nil (c : Clock) : c.write ≠ [] := by
  simp [write]

theorem Duration.write_ne_nil (d : Duration) : d.write ≠ [] := by
  simp only [write]
  split <;> simp

theorem Uuid.write_ne_nil (u : Uuid) : u.write ≠ [] := by
  simp [write, groups, group]

namespace Value

theorem writeChars_ne_nil {v : Value} (other : v.kind ≠ .text) : v.writeChars ≠ [] := by
  cases v with
  | bool b => cases b <;> decide
  | int n => exact signedNumeral_ne_nil n
  | nat n => exact numeral_ne_nil n
  | float x => exact FloatText.write_ne_nil x
  | decimal x => exact x.write_ne_nil
  | text s => exact absurd rfl other
  | offsetTimestamp t => simp [writeChars, OffsetTimestamp.write]
  | localTimestamp t => simp [writeChars, LocalTimestamp.write]
  | date d => exact d.write_ne_nil
  | time c => exact c.write_ne_nil
  | duration d => exact d.write_ne_nil
  | uuid u => exact u.write_ne_nil

@[simp] theorem write_text (s : String) : (Value.text s).write = s := by
  simp [write, writeChars]

@[simp] theorem toList_write (v : Value) : v.write.toList = v.writeChars := by
  simp [write]

end Value
end RowQuery
