/-!
# Numerals

ASCII digits, runs of them, and the decimal numeral of a number. All readers of numbers, dates and
times are built from these. Hexadecimal digits are read in either case and written small.

An integer is an optional sign and one or more digits. A minus sign is read only where negative
numbers exist; leading zeros are read everywhere.

Powers of ten move the point of a decimal and powers of two the point of a binary number; the latter
also bound the numbers of a given width.
-/
namespace RowQuery

/-! ## Powers of two and ten -/

/-- Two to the power `n`. -/
def twoPow (n : Nat) : Nat := Nat.pow 2 n

/-- Ten to the power `n`. -/
def tenPow (n : Nat) : Nat := Nat.pow 10 n

@[simp] theorem tenPow_zero : tenPow 0 = 1 := rfl

theorem twoPow_succ (n : Nat) : twoPow (n + 1) = twoPow n * 2 := rfl

theorem tenPow_succ (n : Nat) : tenPow (n + 1) = tenPow n * 10 := rfl

theorem twoPow_pos (n : Nat) : 0 < twoPow n := by
  induction n with
  | zero => decide
  | succ n ih => rw [twoPow_succ]; omega

namespace Text

/-! ## Decimal digits -/

/-- The value of an ASCII digit. -/
def digit? (c : Char) : Option Nat :=
  if '0' ≤ c ∧ c ≤ '9' then some (c.toNat - 48) else none

/-- The ASCII digit of a value below ten. -/
def digitChar (d : Nat) : Char := Char.ofNat (48 + d)

/-- The longest run of digits at the front, at most `limit` of them, and what follows. -/
def takeDigits : (limit : Nat) → List Char → List Nat × List Char
  | 0, cs => ([], cs)
  | _ + 1, [] => ([], [])
  | limit + 1, c :: cs =>
    match digit? c with
    | some d => let (ds, rest) := takeDigits limit cs; (d :: ds, rest)
    | none => ([], c :: cs)

/-- The whole run of digits at the front, and what follows. -/
def takeAllDigits (cs : List Char) : List Nat × List Char := takeDigits cs.length cs

/-- The number with the given digits, most significant first. -/
def ofDigits (ds : List Nat) : Nat := ds.foldl (fun n d => 10 * n + d) 0

/-- The number of parts that the digits after a point denote, `tenPow places` of which make a whole.
Digits after the given number of places are left out. -/
def ofPlaces (places : Nat) (ds : List Nat) : Nat :=
  ofDigits (ds.take places) * tenPow (places - ds.length)

/-- The digits of a number, most significant first; zero has the digit zero. -/
def digits (n : Nat) : List Nat :=
  if n < 10 then [n] else digits (n / 10) ++ [n % 10]
termination_by n
decreasing_by omega

/-- The numeral of a number. -/
def numeral (n : Nat) : List Char := (digits n).map digitChar

/-- The numeral of a number, with zeros in front up to the given width. -/
def paddedNumeral (width n : Nat) : List Char :=
  let cs := numeral n
  List.replicate (width - cs.length) '0' ++ cs

/-- The numeral of an integer. -/
def signedNumeral (n : Int) : List Char :=
  if n < 0 then '-' :: numeral n.natAbs else numeral n.natAbs

/-- The number that a text of digits alone denotes; there must be one. -/
def natural? (cs : List Char) : Option Nat :=
  match takeAllDigits cs with
  | (d :: ds, []) => some (ofDigits (d :: ds))
  | _ => none

/-! ## Hexadecimal digits -/

/-- The value of a hexadecimal digit of either case. -/
def hexDigit? (c : Char) : Option Nat :=
  if 'a' ≤ c ∧ c ≤ 'f' then some (c.toNat - 87)
  else if 'A' ≤ c ∧ c ≤ 'F' then some (c.toNat - 55)
  else digit? c

/-- The hexadecimal digit of a value below sixteen. -/
def hexChar (d : Nat) : Char := if d < 10 then digitChar d else Char.ofNat (87 + d)

end Text

/-! ## Integers -/

namespace Integer
open Text

/-- The natural number that the characters denote, a plus sign allowed. -/
def readNat? : List Char → Option Nat
  | '+' :: cs => natural? cs
  | cs => natural? cs

/-- The integer that the characters denote, either sign allowed. -/
def read? : List Char → Option Int
  | '-' :: cs => (natural? cs).map fun n => -(n : Int)
  | cs => (readNat? cs).map fun n => (n : Int)

/-- The integer that the characters denote, if it fits a width of `bits + 1` bits with a sign. -/
def readSigned? (bits : Nat) (cs : List Char) : Option Int :=
  (read? cs).filter fun n => -(twoPow bits : Int) ≤ n && n < twoPow bits

/-- The natural number that the characters denote, if it fits a width of `bits` bits. -/
def readUnsigned? (bits : Nat) (cs : List Char) : Option Nat :=
  (readNat? cs).filter fun n => n < twoPow bits

end Integer
end RowQuery
