import Mathlib.Data.Nat.Digits.Defs
import RowQuery.Proofs.Number.Integer
import RowQuery.Value.Reading

/-!
# Integers of every width

The bound of an integer property is a literal whose integer fits the width of the property. There
are eight such types, four widths with a sign and four without, and one argument about all of them.
What a literal denotes is told here by the weights of its places. A number that is held in the width
itself while its digits are read, and is refused as soon as a step leaves the width, comes to the
same: a step that leaves the width is never made up for by later digits.
-/
namespace RowQuery.Integer
open Text

/-! ## What a literal denotes -/

/-- The first digit of a run has the greatest weight. -/
theorem ofDigits_eq_ofDigits_reverse (ds : List Nat) :
    ofDigits ds = Nat.ofDigits 10 ds.reverse := by
  induction ds using List.reverseRecOn with
  | nil => rfl
  | append_singleton ds d ih =>
    rw [ofDigits_append_singleton, ih, List.reverse_append, List.reverse_singleton,
      List.singleton_append, Nat.ofDigits_cons]
    exact Nat.add_comm _ _

namespace Literal

/-- The integer that the digits denote by the weights of their places, with the sign. -/
def denoted (l : Literal) : Int := l.sign.apply (Nat.ofDigits 10 l.run.digits.reverse)

theorem value_eq_denoted (l : Literal) : l.value = l.denoted :=
  congrArg l.sign.apply (ofDigits_eq_ofDigits_reverse l.run.digits)

/-- The text is the literal with any blanks around it. -/
def SpelledBy (l : Literal) (raw : String) : Prop := Padded l.text raw.toList

theorem spelledBy_iff {l : Literal} {raw : String} :
    l.SpelledBy raw ↔ trimChars raw.toList = l.text := padded_iff l.solid_text

/-! ## Reading it -/

theorem readSigned?_text_iff {bits : Nat} {l : Literal} {n : Int} :
    readSigned? bits l.text = some n ↔
      l.denoted = n ∧ -(twoPow bits : Int) ≤ n ∧ n < twoPow bits := by
  rw [readSigned?_text, Option.ite_none_right_eq_some, Option.some_inj, Fits, value_eq_denoted,
    and_comm]
  exact and_congr_right fun same => by rw [same]

/-- Where a natural number is wanted, a plus sign is read and a minus sign is not. -/
theorem readNat?_text {l : Literal} (unsigned : l.sign ≠ .minus) :
    ∃ n : Nat, readNat? l.text = some n ∧ l.denoted = n := by
  have read := l.read?_text
  rw [value_eq_denoted, read?] at read
  · obtain ⟨_, lifted, rfl⟩ := Option.map_eq_some_iff.1 read
    obtain ⟨n, natural, same⟩ := Option.bind_eq_some_iff.1 lifted
    exact ⟨n, natural, (Option.some.inj same).symm⟩
  · intro rest starts
    exact unsigned (l.head?_text_eq_minus.1 (by rw [starts]; rfl))

theorem exists_of_readNat? {cs : List Char} {n : Nat} (read : readNat? cs = some n) :
    ∃ l : Literal, cs = l.text ∧ l.sign ≠ .minus := by
  unfold readNat? at read
  split at read
  · obtain ⟨run, rfl, -⟩ := DigitRun.exists_of_natural? read
    exact ⟨⟨.plus, run⟩, rfl, nofun⟩
  · obtain ⟨run, rfl, -⟩ := DigitRun.exists_of_natural? read
    exact ⟨⟨.absent, run⟩, rfl, nofun⟩

theorem readUnsigned?_text_iff {bits : Nat} {l : Literal} (unsigned : l.sign ≠ .minus) {n : Nat} :
    readUnsigned? bits l.text = some n ↔ l.denoted = n ∧ n < twoPow bits := by
  obtain ⟨m, natural, denotes⟩ := readNat?_text unsigned
  rw [readUnsigned?, Option.filter_eq_some_iff, natural, denotes, Option.some_inj, Int.natCast_inj,
    decide_eq_true_eq]

end Literal

/-! ## Reading it within the width -/

/-- An integer, unless it lies outside of the bounds. -/
def within? (low high n : Int) : Option Int := if low ≤ n ∧ n < high then some n else none

theorem within?_eq_some_iff {low high n m : Int} :
    within? low high n = some m ↔ n = m ∧ low ≤ m ∧ m < high := by
  rw [within?, Option.ite_none_right_eq_some, Option.some_inj, and_comm]
  exact and_congr_right fun same => by rw [same]

/-- What has been read, with one more digit: ten times as much, and then the digit added or, behind
a minus sign, subtracted. Both results have to lie within the bounds. -/
def Sign.advance? (s : Sign) (low high n : Int) (d : Nat) : Option Int :=
  (within? low high (10 * n)).bind fun tens => within? low high (tens + s.apply d)

/-- What a literal comes to, digit by digit, if it stays within the bounds. -/
def Literal.accumulate? (low high : Int) (l : Literal) : Option Int :=
  l.run.digits.foldlM (l.sign.advance? low high) 0

theorem Sign.apply_digit (s : Sign) (n d : Nat) :
    s.apply (10 * n + d) = 10 * s.apply n + s.apply d := by
  cases s <;> simp only [apply] <;> omega

section
variable {low high : Int} (nonpositive : low ≤ 0) (positive : 0 < high)
include nonpositive positive

/-- If a number lies within the bounds, so does what comes before its last digit, and ten times
that: both are closer to zero. -/
theorem Sign.within_of_digit {s : Sign} {n d : Nat} (atLeast : low ≤ s.apply (10 * n + d))
    (below : s.apply (10 * n + d) < high) :
    (low ≤ s.apply n ∧ s.apply n < high) ∧ low ≤ 10 * s.apply n ∧ 10 * s.apply n < high := by
  cases s <;> simp only [apply] at * <;> omega

theorem Sign.within?_bind_advance? (s : Sign) (n d : Nat) :
    (within? low high (s.apply n)).bind (s.advance? low high · d) =
      within? low high (s.apply (10 * n + d)) := by
  refine Option.ext fun m => ?_
  simp only [advance?, Option.bind_eq_some_iff, within?_eq_some_iff]
  constructor
  · rintro ⟨_, ⟨rfl, -⟩, _, ⟨rfl, -⟩, last⟩
    rwa [← s.apply_digit] at last
  · rintro ⟨rfl, atLeast, below⟩
    obtain ⟨front, tens⟩ := Sign.within_of_digit nonpositive positive atLeast below
    rw [s.apply_digit] at atLeast below ⊢
    exact ⟨_, ⟨rfl, front⟩, _, ⟨rfl, tens⟩, rfl, atLeast, below⟩

/-- A run of digits is accepted exactly if the whole number lies within the bounds. -/
theorem Sign.foldlM_advance? (s : Sign) (ds : List Nat) :
    ds.foldlM (s.advance? low high) 0 = within? low high (s.apply (ofDigits ds)) := by
  induction ds using List.reverseRecOn with
  | nil =>
    have zero : s.apply (ofDigits []) = 0 := by cases s <;> rfl
    rw [zero, within?, if_pos ⟨nonpositive, positive⟩]
    rfl
  | append_singleton ds d ih =>
    rw [List.foldlM_append, ih, ofDigits_append_singleton,
      ← s.within?_bind_advance? nonpositive positive]
    simp

theorem Literal.accumulate?_eq_some_iff {l : Literal} {n : Int} :
    l.accumulate? low high = some n ↔ l.denoted = n ∧ low ≤ n ∧ n < high := by
  rw [accumulate?, l.sign.foldlM_advance? nonpositive positive, within?_eq_some_iff,
    ← value_eq_denoted]
  rfl

end
end RowQuery.Integer

namespace RowQuery
open Text Integer

/-! ## The types of integers -/

theorem twoPow_le_twoPow {m n : Nat} (le : m ≤ n) : twoPow m ≤ twoPow n :=
  Nat.pow_le_pow_right (by decide) le

/-- The widths of integers. -/
inductive Width where
  | bits8 | bits16 | bits32 | bits64
  deriving DecidableEq, Repr

namespace Width

def bits : Width → Nat
  | bits8 => 8
  | bits16 => 16
  | bits32 => 32
  | bits64 => 64

/-- The integers of the width that have a sign. -/
def signed : Width → ValueType
  | bits8 => .int8
  | bits16 => .int16
  | bits32 => .int32
  | bits64 => .int64

/-- The integers of the width that have none. -/
def unsigned : Width → ValueType
  | bits8 => .nat8
  | bits16 => .nat16
  | bits32 => .nat32
  | bits64 => .nat64

/-- The bound is accepted for integers with a sign, and what is compared is `n`. -/
def Reads (w : Width) (raw : String) (n : Int) : Prop :=
  ∃ x, parseNumber raw w.signed = .ok x ∧ Value.of w.signed x = .int n

/-- The bound is accepted for integers without a sign, and what is compared is `n`. -/
def ReadsNat (w : Width) (raw : String) (n : Nat) : Prop :=
  ∃ x, parseNumber raw w.unsigned = .ok x ∧ Value.of w.unsigned x = .nat n

/-- An integer with a sign is read and then held in the width, which loses nothing that fits. -/
theorem readNumber?_signed (w : Width) :
    ∃ (hold : Int → w.signed.Carrier) (told : w.signed.Carrier → Int),
      (∀ cs, w.signed.readNumber? cs = (readSigned? (w.bits - 1) cs).map hold) ∧
      (∀ x, Value.of w.signed x = .int (told x)) ∧
      ∀ n, -(twoPow (w.bits - 1) : Int) ≤ n → n < twoPow (w.bits - 1) → told (hold n) = n := by
  cases w with
  | bits8 => exact ⟨_, _, fun _ => rfl, fun _ => rfl, fun _ => Int8.toInt_ofInt_of_le⟩
  | bits16 => exact ⟨_, _, fun _ => rfl, fun _ => rfl, fun _ => Int16.toInt_ofInt_of_le⟩
  | bits32 => exact ⟨_, _, fun _ => rfl, fun _ => rfl, fun _ => Int32.toInt_ofInt_of_le⟩
  | bits64 => exact ⟨_, _, fun _ => rfl, fun _ => rfl, fun _ => Int64.toInt_ofInt_of_le⟩

theorem readNumber?_unsigned (w : Width) :
    ∃ (hold : Nat → w.unsigned.Carrier) (told : w.unsigned.Carrier → Nat),
      (∀ cs, w.unsigned.readNumber? cs = (readUnsigned? w.bits cs).map hold) ∧
      (∀ x, Value.of w.unsigned x = .nat (told x)) ∧
      ∀ n, n < twoPow w.bits → told (hold n) = n := by
  cases w with
  | bits8 => exact ⟨_, _, fun _ => rfl, fun _ => rfl, fun _ => UInt8.toNat_ofNat_of_lt'⟩
  | bits16 => exact ⟨_, _, fun _ => rfl, fun _ => rfl, fun _ => UInt16.toNat_ofNat_of_lt'⟩
  | bits32 => exact ⟨_, _, fun _ => rfl, fun _ => rfl, fun _ => UInt32.toNat_ofNat_of_lt'⟩
  | bits64 => exact ⟨_, _, fun _ => rfl, fun _ => rfl, fun _ => UInt64.toNat_ofNat_of_lt'⟩

theorem isNumeric_signed (w : Width) : w.signed.isNumeric = true := by cases w <;> rfl

theorem isNumeric_unsigned (w : Width) : w.unsigned.isNumeric = true := by cases w <;> rfl

/-- What is read and held tells what was read, if nothing that can be read is lost. -/
theorem exists_held_iff {α β : Type} {read : Option α} {hold : α → β} {told : β → α}
    (faithful : ∀ m, read = some m → told (hold m) = m) {n : α} :
    (∃ x, read.map hold = some x ∧ told x = n) ↔ read = some n := by
  constructor
  · rintro ⟨_, held, rfl⟩
    obtain ⟨m, found, rfl⟩ := Option.map_eq_some_iff.1 held
    rw [faithful m found, found]
  · intro found
    exact ⟨hold n, by rw [found, Option.map_some], faithful n found⟩

theorem reads_iff {w : Width} {raw : String} {n : Int} :
    w.Reads raw n ↔ readSigned? (w.bits - 1) (trimChars raw.toList) = some n := by
  obtain ⟨hold, told, reads, tells, faithful⟩ := w.readNumber?_signed
  have lossless : ∀ m, readSigned? (w.bits - 1) (trimChars raw.toList) = some m →
      told (hold m) = m := by
    intro m read
    obtain ⟨l, text, -⟩ := Literal.exists_of_readSigned? read
    rw [← text] at read
    obtain ⟨-, low, high⟩ := Literal.readSigned?_text_iff.1 read
    exact faithful m low high
  rw [← exists_held_iff lossless, Reads]
  simp only [parseNumber_success w.isNumeric_signed, reads, tells, Value.int.injEq]

theorem readsNat_iff {w : Width} {raw : String} {n : Nat} :
    w.ReadsNat raw n ↔ readUnsigned? w.bits (trimChars raw.toList) = some n := by
  obtain ⟨hold, told, reads, tells, faithful⟩ := w.readNumber?_unsigned
  have lossless : ∀ m, readUnsigned? w.bits (trimChars raw.toList) = some m →
      told (hold m) = m := by
    intro m read
    exact faithful m (of_decide_eq_true (Option.filter_eq_some_iff.1 read).2)
  rw [← exists_held_iff lossless, ReadsNat]
  simp only [parseNumber_success w.isNumeric_unsigned, reads, tells, Value.nat.injEq]

/-! ## What is accepted -/

section
variable {w : Width} {raw : String} {l : Literal}

theorem reads_spelled_iff (spelled : l.SpelledBy raw) {n : Int} :
    w.Reads raw n ↔
      l.denoted = n ∧ -(twoPow (w.bits - 1) : Int) ≤ n ∧ n < twoPow (w.bits - 1) := by
  rw [reads_iff, Literal.spelledBy_iff.1 spelled, Literal.readSigned?_text_iff]

theorem readsNat_spelled_iff (spelled : l.SpelledBy raw) (unsigned : l.sign ≠ .minus) {n : Nat} :
    w.ReadsNat raw n ↔ l.denoted = n ∧ n < twoPow w.bits := by
  rw [readsNat_iff, Literal.spelledBy_iff.1 spelled, Literal.readUnsigned?_text_iff unsigned]

theorem Reads.exists_spelled {n : Int} (read : w.Reads raw n) :
    ∃ l : Literal, l.SpelledBy raw := by
  obtain ⟨l, text, -⟩ := Literal.exists_of_readSigned? (reads_iff.1 read)
  exact ⟨l, Literal.spelledBy_iff.2 text.symm⟩

theorem ReadsNat.exists_spelled {n : Nat} (read : w.ReadsNat raw n) :
    ∃ l : Literal, l.SpelledBy raw ∧ l.sign ≠ .minus := by
  obtain ⟨natural, -⟩ := Option.filter_eq_some_iff.1 (readsNat_iff.1 read)
  obtain ⟨l, text, unsigned⟩ := Literal.exists_of_readNat? natural
  exact ⟨l, Literal.spelledBy_iff.2 text, unsigned⟩

theorem Reads.wider {wider : Width} (le : w.bits ≤ wider.bits) {n : Int} (read : w.Reads raw n) :
    wider.Reads raw n := by
  obtain ⟨l, spelled⟩ := read.exists_spelled
  obtain ⟨denotes, low, high⟩ := (reads_spelled_iff spelled).1 read
  have room : twoPow (w.bits - 1) ≤ twoPow (wider.bits - 1) := twoPow_le_twoPow (by omega)
  exact (reads_spelled_iff spelled).2 ⟨denotes, by omega, by omega⟩

theorem ReadsNat.wider {wider : Width} (le : w.bits ≤ wider.bits) {n : Nat}
    (read : w.ReadsNat raw n) : wider.ReadsNat raw n := by
  obtain ⟨l, spelled, unsigned⟩ := read.exists_spelled
  obtain ⟨denotes, high⟩ := (readsNat_spelled_iff spelled unsigned).1 read
  have room : twoPow w.bits ≤ twoPow wider.bits := twoPow_le_twoPow le
  exact (readsNat_spelled_iff spelled unsigned).2 ⟨denotes, Nat.lt_of_lt_of_le high room⟩

end

/-- Bounds of integers are read exactly and within the width. A bound is accepted for integers with
a sign exactly if, apart from blanks around it, it is one or more digits behind a sign or none, and
the integer that they denote fits the width; for integers without a sign exactly if it is such a
text without a minus sign and the number fits. In both cases that number is what is compared, and
any greater width accepts the same text as the same number. To find it, no more than the width is
needed: read digit by digit within the width, a text of that form is refused by some digit exactly
if its number does not fit. -/
theorem parseNumber_integer (w : Width) (raw : String) :
    (∀ n : Int, w.Reads raw n ↔ ∃ l : Literal, l.SpelledBy raw ∧ l.denoted = n ∧
      -(twoPow (w.bits - 1) : Int) ≤ n ∧ n < twoPow (w.bits - 1)) ∧
    (∀ n : Nat, w.ReadsNat raw n ↔ ∃ l : Literal, l.SpelledBy raw ∧ l.sign ≠ .minus ∧
      l.denoted = n ∧ n < twoPow w.bits) ∧
    (∀ wider : Width, w.bits ≤ wider.bits →
      (∀ n, w.Reads raw n → wider.Reads raw n) ∧
        ∀ n, w.ReadsNat raw n → wider.ReadsNat raw n) ∧
    ∀ l : Literal, l.SpelledBy raw →
      (∀ n, w.Reads raw n ↔
        l.accumulate? (-(twoPow (w.bits - 1) : Int)) (twoPow (w.bits - 1)) = some n) ∧
      (l.sign ≠ .minus → ∀ n : Nat, w.ReadsNat raw n ↔
        l.accumulate? 0 (twoPow w.bits) = some (n : Int)) := by
  refine ⟨fun n => ⟨fun read => ?_, ?_⟩, fun n => ⟨fun read => ?_, ?_⟩,
    fun wider le => ⟨fun n => Reads.wider le, fun n => ReadsNat.wider le⟩,
    fun l spelled => ⟨fun n => ?_, fun unsigned n => ?_⟩⟩
  · obtain ⟨l, spelled⟩ := read.exists_spelled
    exact ⟨l, spelled, (reads_spelled_iff spelled).1 read⟩
  · rintro ⟨l, spelled, accepted⟩
    exact (reads_spelled_iff spelled).2 accepted
  · obtain ⟨l, spelled, unsigned⟩ := read.exists_spelled
    exact ⟨l, spelled, unsigned, (readsNat_spelled_iff spelled unsigned).1 read⟩
  · rintro ⟨l, spelled, unsigned, accepted⟩
    exact (readsNat_spelled_iff spelled unsigned).2 accepted
  · have room := twoPow_pos (w.bits - 1)
    rw [reads_spelled_iff spelled, Literal.accumulate?_eq_some_iff (by omega) (by omega)]
  · have room := twoPow_pos w.bits
    rw [readsNat_spelled_iff spelled unsigned,
      Literal.accumulate?_eq_some_iff (Int.le_refl 0) (by omega)]
    exact and_congr_right fun _ => by omega

/-- The least integer of eight bits with a sign, in more places than it needs. -/
def leastOfBits8 : Literal := ⟨.minus, ⟨[0, 0, 1, 2, 8], nofun, by decide⟩⟩

/-- The greatest of those without a sign. -/
def greatestOfBits8 : Literal := ⟨.plus, ⟨[2, 5, 5], nofun, by decide⟩⟩

/-- Both are read, and wider types read them as the same numbers. -/
theorem ends_of_bits8 :
    leastOfBits8.SpelledBy " -00128 " ∧ leastOfBits8.accumulate? (-128) 128 = some (-128) ∧
      bits8.Reads " -00128 " (-128) ∧ bits64.Reads " -00128 " (-128) ∧
    greatestOfBits8.SpelledBy "+255" ∧ greatestOfBits8.accumulate? 0 256 = some 255 ∧
      bits8.ReadsNat "+255" 255 ∧ bits16.ReadsNat "+255" 255 := by
  have spelledLeast : leastOfBits8.SpelledBy " -00128 " :=
    ⟨[' '], [' '], by decide, List.forall_mem_singleton.2 rfl, List.forall_mem_singleton.2 rfl⟩
  have spelledGreatest : greatestOfBits8.SpelledBy "+255" :=
    ⟨[], [], by decide, List.forall_mem_nil _, List.forall_mem_nil _⟩
  have least : leastOfBits8.accumulate? (-128) 128 = some (-128) := by decide
  have greatest : greatestOfBits8.accumulate? 0 256 = some 255 := by decide
  obtain ⟨-, -, wider, digits⟩ := parseNumber_integer bits8 " -00128 "
  have readLeast := ((digits leastOfBits8 spelledLeast).1 (-128)).2 least
  obtain ⟨-, -, widerNat, digitsNat⟩ := parseNumber_integer bits8 "+255"
  have readGreatest := ((digitsNat greatestOfBits8 spelledGreatest).2 (by decide) 255).2 greatest
  exact ⟨spelledLeast, least, readLeast, (wider bits64 (by decide)).1 _ readLeast,
    spelledGreatest, greatest, readGreatest, (widerNat bits16 (by decide)).2 _ readGreatest⟩

end Width
end RowQuery
