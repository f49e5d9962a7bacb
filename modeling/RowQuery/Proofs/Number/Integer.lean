import RowQuery.Proofs.Text.Numeral

/-!
# Integers as they are written

A literal is a run of digits, of any length and with any zeros in front, behind a sign or none. The
readers of integers accept literals and nothing else, and find the number that one denotes; how many
digits there are never matters, only whether that number fits.
-/
namespace RowQuery.Text

/-- One or more digits, most significant first. -/
structure DigitRun where
  digits : List Nat
  digits_ne_nil : digits ≠ []
  digits_lt : ∀ d ∈ digits, d < 10
  deriving DecidableEq

namespace DigitRun

def text (r : DigitRun) : List Char := r.digits.map digitChar

def number (r : DigitRun) : Nat := ofDigits r.digits

theorem text_eq_cons (r : DigitRun) : ∃ d < 10, ∃ cs, r.text = digitChar d :: cs :=
  map_digitChar_eq_cons r.digits_ne_nil r.digits_lt

/-- Nothing but digits stands in a run. -/
theorem not_mem_text (r : DigitRun) {c : Char} (other : digit? c = none) : c ∉ r.text := by
  intro member
  obtain ⟨d, digit, same⟩ := List.mem_map.1 member
  exact digitChar_ne (r.digits_lt d digit) other same

theorem solid_text (r : DigitRun) : Solid r.text := solid_map_digitChar r.digits_lt

theorem takeAllDigits_text (r : DigitRun) : takeAllDigits r.text = (r.digits, []) := by
  have taken := takeAllDigits_map_digitChar r.digits_lt noDigit_nil
  rwa [List.append_nil] at taken

/-- A text that is taken whole for digits is a run, unless it is empty. -/
theorem exists_of_takeAllDigits {cs : List Char} {d : Nat} {ds : List Nat}
    (taken : takeAllDigits cs = (d :: ds, [])) :
    ∃ r : DigitRun, r.text = cs ∧ r.digits = d :: ds := by
  obtain ⟨parts, small, -⟩ := takeAllDigits_eq taken
  exact ⟨⟨d :: ds, List.cons_ne_nil d ds, small⟩, by rw [parts, List.append_nil]; rfl, rfl⟩

theorem natural?_text (r : DigitRun) : natural? r.text = some r.number := by
  obtain ⟨d, ds, listed⟩ := List.exists_cons_of_ne_nil r.digits_ne_nil
  rw [natural?, takeAllDigits_text, number, listed]

theorem exists_of_natural? {cs : List Char} {n : Nat} (read : natural? cs = some n) :
    ∃ r : DigitRun, r.text = cs ∧ r.number = n := by
  rw [natural?] at read
  split at read
  · rename_i d ds taken
    obtain ⟨r, text, listed⟩ := exists_of_takeAllDigits taken
    exact ⟨r, text, by rw [number, listed]; exact Option.some.inj read⟩
  · cases read

end DigitRun
end RowQuery.Text

namespace RowQuery.Integer
open Text

/-- What may stand in front of the digits of an integer. -/
inductive Sign where
  | absent | plus | minus
  deriving DecidableEq, Repr

namespace Sign

def text : Sign → List Char
  | absent => []
  | plus => ['+']
  | minus => ['-']

/-- The integer of a sign and a number. -/
def apply : Sign → Nat → Int
  | minus, n => -n
  | _, n => n

theorem solid_text (s : Sign) : Solid s.text := by
  cases s <;> exact solid_of_all (by decide)

end Sign

/-- An integer as it is written. -/
structure Literal where
  sign : Sign
  run : DigitRun
  deriving DecidableEq

namespace Literal

def text (l : Literal) : List Char := l.sign.text ++ l.run.text

def value (l : Literal) : Int := l.sign.apply l.run.number

/-- The integer fits a width of `bits + 1` bits with a sign. -/
def Fits (bits : Nat) (l : Literal) : Prop :=
  -(twoPow bits : Int) ≤ l.value ∧ l.value < twoPow bits

instance (bits : Nat) (l : Literal) : Decidable (l.Fits bits) :=
  inferInstanceAs (Decidable (_ ∧ _))

theorem solid_text (l : Literal) : Solid l.text :=
  solid_append.2 ⟨l.sign.solid_text, l.run.solid_text⟩

/-- Apart from digits, only the sign stands in a literal. -/
theorem mem_text_iff (l : Literal) {c : Char} (other : digit? c = none) :
    c ∈ l.text ↔ c ∈ l.sign.text := by
  rw [text, List.mem_append]
  exact or_iff_left (l.run.not_mem_text other)

theorem not_mem_text (l : Literal) {c : Char} (other : digit? c = none) (plus : c ≠ '+')
    (minus : c ≠ '-') : c ∉ l.text := by
  rw [l.mem_text_iff other]
  cases l.sign <;> simp [Sign.text, plus, minus]

theorem sign_eq_absent_iff (l : Literal) : l.sign = .absent ↔ '+' ∉ l.text ∧ '-' ∉ l.text := by
  rw [l.mem_text_iff rfl, l.mem_text_iff rfl]
  cases l.sign <;> simp [Sign.text]

theorem text_ne_nil (l : Literal) : l.text ≠ [] := by
  obtain ⟨d, -, cs, starts⟩ := l.run.text_eq_cons
  rw [text, starts]
  exact List.append_ne_nil_of_right_ne_nil _ (List.cons_ne_nil _ cs)

/-- A literal begins with a minus sign only if it is its own. -/
theorem head?_text_eq_minus (l : Literal) : l.text.head? = some '-' ↔ l.sign = .minus := by
  obtain ⟨d, small, cs, starts⟩ := l.run.text_eq_cons
  have other : digitChar d ≠ '-' := digitChar_ne small rfl
  rw [text, starts]
  cases l.sign <;> simp [Sign.text, other]

theorem sign_of_value_neg {l : Literal} (negative : l.value < 0) : l.sign = .minus := by
  cases own : l.sign with
  | minus => rfl
  | absent | plus =>
    rw [value, own, Sign.apply] at negative
    · omega
    · exact nofun

theorem read?_text (l : Literal) : read? l.text = some l.value := by
  obtain ⟨sign, run⟩ := l
  have natural := run.natural?_text
  cases sign with
  | absent =>
    -- The first digit is neither of the signs for which the readers look.
    obtain ⟨d, small, cs, starts⟩ := run.text_eq_cons
    change read? run.text = some (run.number : Int)
    rw [starts] at natural ⊢
    rw [read?, readNat?, natural]
    · rfl
    · intro _ plus
      exact digitChar_ne small rfl (List.cons.inj plus).1
    · intro _ minus
      exact digitChar_ne small rfl (List.cons.inj minus).1
  | plus =>
    change read? ('+' :: run.text) = some (run.number : Int)
    rw [read?, readNat?, natural]
    · rfl
    · intro _ minus
      exact absurd (List.cons.inj minus).1 (by decide)
  | minus =>
    change read? ('-' :: run.text) = some (-(run.number : Int))
    rw [read?, natural]
    rfl

theorem exists_of_read? {cs : List Char} {n : Int} (read : read? cs = some n) :
    ∃ l : Literal, l.text = cs ∧ l.value = n := by
  unfold read? at read
  split at read
  · obtain ⟨_, lifted, rfl⟩ := Option.map_eq_some_iff.1 read
    obtain ⟨m, natural, same⟩ := Option.bind_eq_some_iff.1 lifted
    obtain ⟨run, rfl, rfl⟩ := DigitRun.exists_of_natural? natural
    cases same
    exact ⟨⟨.minus, run⟩, rfl, rfl⟩
  · obtain ⟨_, lifted, rfl⟩ := Option.map_eq_some_iff.1 read
    obtain ⟨m, natural, same⟩ := Option.bind_eq_some_iff.1 lifted
    cases same
    unfold readNat? at natural
    split at natural
    · obtain ⟨run, rfl, rfl⟩ := DigitRun.exists_of_natural? natural
      exact ⟨⟨.plus, run⟩, rfl, rfl⟩
    · obtain ⟨run, rfl, rfl⟩ := DigitRun.exists_of_natural? natural
      exact ⟨⟨.absent, run⟩, rfl, rfl⟩

/-- A literal is read for a width if its integer fits. -/
theorem readSigned?_text (bits : Nat) (l : Literal) :
    readSigned? bits l.text = if l.Fits bits then some l.value else none := by
  rw [readSigned?, read?_text, Option.filter_some]
  simp only [Fits, Bool.and_eq_true, decide_eq_true_eq]
  rfl

theorem exists_of_readSigned? {bits : Nat} {cs : List Char} {n : Int}
    (read : readSigned? bits cs = some n) : ∃ l : Literal, l.text = cs ∧ l.value = n :=
  exists_of_read? (Option.filter_eq_some_iff.1 read).1

end Literal
end RowQuery.Integer
