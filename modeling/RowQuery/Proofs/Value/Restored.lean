import Mathlib
import RowQuery.Proofs.Calendar.Pattern
import RowQuery.Proofs.Number.Decimal
import RowQuery.Proofs.Uuid
import RowQuery.Proofs.Value.Written

/-!
# Written values read back

The text of a value, read as a value of its own type, gives the value back. Texts keep their blanks,
all other writers make none, so that nothing is lost to the reader that ignores blanks around a
value. The value that comes back has the same form, not only the same place in the order: a decimal
keeps its places and a timestamp its offset, which comparing values does not see. The one thing that
is lost is the sign of a zero.

An offset timestamp is written as its wall shows it, and the wall may show a day beyond the last
supported one, which no reader accepts. Floating-point numbers and lengths of time are not
considered here.
-/
namespace RowQuery
open Text

/-- The values whose texts are considered: all but floating-point numbers and lengths of time, and
of timestamps with an offset those whose wall shows a supported date. -/
def Restorable : (τ : ValueType) → τ.Carrier → Prop
  | .float32, _ | .float64, _ | .duration, _ => False
  | .offsetTimestamp, t => firstYear ≤ t.wallDate.year ∧ t.wallDate.year ≤ lastYear
  | _, _ => True

/-- The value that the text of a value denotes. -/
def restored : (τ : ValueType) → τ.Carrier → τ.Carrier
  | .decimal, x => x.canonical
  | _, x => x

/-- Whether two values are one, the sign of a zero apart. -/
def SameForm : (τ : ValueType) → τ.Carrier → τ.Carrier → Prop
  | .decimal, x, y =>
    x.coefficient = y.coefficient ∧ x.places = y.places ∧
      (y.coefficient ≠ 0 → x.negative = y.negative)
  | _, x, y => x = y

/-! ## Characters -/

theorem solid_writeChars {τ : ValueType} {x : τ.Carrier} (restorable : Restorable τ x)
    (other : τ ≠ .text) : Solid (Value.of τ x).writeChars := by
  cases τ with
  | bool =>
    cases x
    · exact solid_of_all (by decide)
    · exact solid_of_all (by decide)
  | int8 | int16 | int32 | int64 => exact solid_signedNumeral _
  | nat8 | nat16 | nat32 | nat64 => exact solid_numeral _
  | float32 | float64 | duration => exact restorable.elim
  | decimal => exact x.solid_write
  | text => exact absurd rfl other
  | uuid => exact x.solid_write
  | offsetTimestamp => exact Calendar.solid_timestamp x
  | localTimestamp => exact Calendar.solid_local x
  | date => exact Calendar.solid_date x.toCivilDate
  | time => exact Calendar.solid_clock x

/-! ## The three readers -/

/-- An integer of a width is read back as itself. -/
theorem Integer.readSigned?_toInt {α : Type} {bits : Nat} {toInt : α → Int} {ofInt : Int → α}
    {n : α} (inverse : ofInt (toInt n) = n) (low : -(twoPow bits : Int) ≤ toInt n)
    (high : toInt n < twoPow bits) :
    (readSigned? bits (signedNumeral (toInt n))).map ofInt = some n := by
  rw [readSigned?_signedNumeral low high, Option.map_some, inverse]

theorem Integer.readUnsigned?_toNat {α : Type} {bits : Nat} {toNat : α → Nat} {ofNat : Nat → α}
    {n : α} (inverse : ofNat (toNat n) = n) (high : toNat n < twoPow bits) :
    (readUnsigned? bits (numeral (toNat n))).map ofNat = some n := by
  rw [readUnsigned?_numeral high, Option.map_some, inverse]

theorem readNumber?_write {τ : ValueType} {x : τ.Carrier} (restorable : Restorable τ x)
    (numeric : τ.isNumeric = true) :
    τ.readNumber? (Value.of τ x).writeChars = some (restored τ x) := by
  cases τ with
  | int8 => exact Integer.readSigned?_toInt (Int8.ofInt_toInt x) x.le_toInt x.toInt_lt
  | int16 => exact Integer.readSigned?_toInt (Int16.ofInt_toInt x) x.le_toInt x.toInt_lt
  | int32 => exact Integer.readSigned?_toInt (Int32.ofInt_toInt x) x.le_toInt x.toInt_lt
  | int64 => exact Integer.readSigned?_toInt (Int64.ofInt_toInt x) x.le_toInt x.toInt_lt
  | nat8 => exact Integer.readUnsigned?_toNat (UInt8.ofNat_toNat) x.toNat_lt
  | nat16 => exact Integer.readUnsigned?_toNat (UInt16.ofNat_toNat) x.toNat_lt
  | nat32 => exact Integer.readUnsigned?_toNat (UInt32.ofNat_toNat) x.toNat_lt
  | nat64 => exact Integer.readUnsigned?_toNat (UInt64.ofNat_toNat) x.toNat_lt
  | decimal => exact x.read?_write
  | float32 | float64 => exact restorable.elim
  | _ => cases numeric

theorem readTemporal?_write {τ : ValueType} {x : τ.Carrier} (restorable : Restorable τ x)
    (temporal : τ.isTemporal = true) :
    τ.readTemporal? (Value.of τ x).writeChars = some (restored τ x) := by
  cases τ with
  | offsetTimestamp =>
    have shown : OffsetTimestamp.wallDate x = (⟨x.wallDate, restorable⟩ : Date).toCivilDate := rfl
    exact Calendar.readOffset?_write shown
  | localTimestamp => exact Calendar.readLocal?_write x
  | date => exact Calendar.readDate?_write x
  | time => exact Calendar.readClock?_write x
  | duration => exact restorable.elim
  | _ => cases temporal

theorem readPlain?_write {τ : ValueType} (x : τ.Carrier) (countless : τ.isNumeric = false)
    (timeless : τ.isTemporal = false) :
    τ.readPlain? (Value.of τ x).write = some (restored τ x) := by
  cases τ with
  | bool =>
    cases x
    · decide +kernel
    · decide +kernel
  | text =>
    rw [ValueType.readPlain?, Value.of, Value.write_text]
    rfl
  | uuid =>
    have solid : Solid (Value.of .uuid x).writeChars := x.solid_write
    rw [ValueType.readPlain?, Value.toList_write, trimChars_eq_self solid]
    exact x.read?_write
  | int8 | int16 | int32 | int64 | nat8 | nat16 | nat32 | nat64 | float32 | float64 | decimal =>
    cases countless
  | offsetTimestamp | localTimestamp | date | time | duration => cases timeless

/-! ## The value that comes back -/

theorem parseValue_write_eq {τ : ValueType} {x : τ.Carrier} (restorable : Restorable τ x) :
    parseValue (Value.of τ x).write τ = .ok (restored τ x) := by
  have trimmed (other : τ ≠ .text) :
      trimChars (Value.of τ x).write.toList = (Value.of τ x).writeChars := by
    rw [Value.toList_write, trimChars_eq_self (solid_writeChars restorable other)]
  unfold parseValue
  cases numeric : τ.isNumeric with
  | true =>
    have other : τ ≠ .text := by
      rintro rfl
      cases numeric
    rw [if_pos rfl, trimmed other, readNumber?_write restorable numeric]
    rfl
  | false =>
    rw [if_neg Bool.false_ne_true]
    cases temporal : τ.isTemporal with
    | true =>
      have other : τ ≠ .text := by
        rintro rfl
        cases temporal
      rw [if_pos rfl, trimmed other, readTemporal?_write restorable temporal]
      rfl
    | false =>
      rw [if_neg Bool.false_ne_true, readPlain?_write x numeric temporal]
      rfl

/-- Losing the sign of a zero leaves a value where it is in the order. -/
theorem restored_equal {τ : ValueType} {x : τ.Carrier} (restorable : Restorable τ x) :
    (Value.of τ (restored τ x)).equal (Value.of τ x) = true := by
  have kinds : (Value.of τ (restored τ x)).kind = (Value.of τ x).kind := by
    rw [Value.kind_of, Value.kind_of]
  have number : (Value.of τ (restored τ x)).kind ≠ .float := by
    rw [Value.kind_of]
    cases τ with
    | float32 | float64 => exact restorable.elim
    | _ => decide
  have place : (Value.of τ (restored τ x)).place = (Value.of τ x).place := by
    cases τ with
    | decimal => exact x.position_canonical
    | _ => rfl
  have words : (Value.of τ (restored τ x)).words = (Value.of τ x).words := by
    cases τ <;> rfl
  rw [Value.equal, Value.compare?_of_kind_eq kinds number, place, words]
  simp

theorem restored_sameForm (τ : ValueType) (x : τ.Carrier) : SameForm τ (restored τ x) x := by
  cases τ with
  | decimal =>
    refine ⟨rfl, rfl, fun nonzero => ?_⟩
    simp [restored, Decimal.canonical, nonzero]
  | _ => rfl

/-- Reading undoes writing: the text of a value is accepted for the type of the value, and what is
read equals the value and has its form. -/
theorem parseValue_write {τ : ValueType} {x : τ.Carrier} (restorable : Restorable τ x) :
    ∃ y, parseValue (Value.of τ x).write τ = .ok y ∧
      (Value.of τ y).equal (Value.of τ x) = true ∧ SameForm τ y x :=
  ⟨restored τ x, parseValue_write_eq restorable, restored_equal restorable,
    restored_sameForm τ x⟩

theorem december_mem : 1 ≤ 12 ∧ 12 ≤ 12 := by decide

/-- The middle of a leap second that is still in the year 9999 by universal time, and on the wall in
the first hour of a year of five digits. -/
def lastLeap : OffsetTimestamp where
  instant := ⟨⟨⟨9999, 12, 31, december_mem, by decide⟩, by decide⟩,
    ⟨84659, 1500000000, by decide, by decide, by decide⟩⟩
  offset := ⟨60, by decide⟩

theorem lastLeap_restored :
    (firstYear ≤ lastLeap.wallDate.year ∧ lastLeap.wallDate.year ≤ lastYear) ∧
      ∃ y, parseValue "+10000-01-01T00:30:60.500+01:00" .offsetTimestamp = .ok y ∧
        (Value.of .offsetTimestamp y).equal (.offsetTimestamp lastLeap) = true ∧ y = lastLeap := by
  have restorable : Restorable .offsetTimestamp lastLeap := by
    show firstYear ≤ lastLeap.wallDate.year ∧ lastLeap.wallDate.year ≤ lastYear
    decide
  have text : (Value.of .offsetTimestamp lastLeap).write = "+10000-01-01T00:30:60.500+01:00" := by
    cbv
  rw [← text]
  exact ⟨restorable, parseValue_write restorable⟩

end RowQuery
