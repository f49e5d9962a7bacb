import RowQuery.Text.Numeral

/-!
# Decimals

A decimal is a sign and a coefficient below 2⁹⁶ with at most twenty-eight places after the point.
The places and the sign of a zero belong to the value as written, `1.50` has two places, but not to
its order: `1.5` and `1.50` are equal numbers.

Reading keeps as many places as fit. Where the next digit would not fit, that digit alone decides
the rounding, a half away from zero. An exponent that moves the point to the left rounds the
coefficient in the same way; this is how a negative number becomes a zero that keeps its sign, which
positional notation never has.
-/
namespace RowQuery

/-- The coefficient of a decimal lies below this. -/
def decimalLimit : Nat := twoPow 96

/-- No decimal has more places. -/
def decimalPlaces : Nat := 28

structure Decimal where
  negative : Bool
  coefficient : Nat
  places : Nat
  coefficient_lt : coefficient < decimalLimit
  places_le : places ≤ decimalPlaces
  deriving DecidableEq, Repr

namespace Decimal
open Text

instance : Inhabited Decimal := ⟨⟨false, 0, 0, by decide, by decide⟩⟩

/-- The decimal with a given sign, coefficient and number of places, if there is one. -/
def make? (negative : Bool) (coefficient places : Nat) : Option Decimal :=
  if h : coefficient < decimalLimit ∧ places ≤ decimalPlaces then
    some ⟨negative, coefficient, places, h.1, h.2⟩
  else none

/-- The signed coefficient at the full number of places, which orders decimals as numbers. -/
def position (x : Decimal) : Int :=
  let n := x.coefficient * tenPow (decimalPlaces - x.places)
  if x.negative then -(n : Int) else n

/-- The digits read so far: their number, the places among them, and whether the point and any
digit have been seen. -/
structure Reading where
  coefficient : Nat := 0
  places : Nat := 0
  pointed : Bool := false
  started : Bool := false
  deriving DecidableEq, Repr

/-- The reading after a digit that fits. -/
def Reading.push (r : Reading) (next : Nat) : Reading :=
  { r with coefficient := next, places := if r.pointed then r.places + 1 else 0, started := true }

/-- The reading rounded by the first digit that is left out. A coefficient that outgrows the limit
by rounding gives up its last place. -/
def Reading.roundBy (r : Reading) (d : Nat) : Option Reading :=
  if d < 5 then some r
  else if r.coefficient + 1 < decimalLimit then some { r with coefficient := r.coefficient + 1 }
  else if r.places = 0 then none
  else some { r with coefficient := (r.coefficient + 1 + 4) / 10, places := r.places - 1 }

/-- Digits and underscores alone. -/
def isTail (cs : List Char) : Bool := cs.all fun c => c == '_' || (digit? c).isSome

/-- The reading rounded by the first of the digits that are left out, which must be digits and
underscores to the end. -/
def Reading.round (r : Reading) : List Char → Option Reading
  | [] => some r
  | c :: cs => if isTail cs then (digit? c).bind r.roundBy else none

/-- Coefficients below this are short. -/
def shortLimit : Nat := (twoPow 64 - 1) / 10 - 255

/-- The reading that has all its places, before the characters that follow them. Underscores in
front of the digit that decides the rounding are passed over, unless the last place was put to a
short coefficient: then the first of them stands for that digit, and nothing is rounded. -/
def Reading.complete (r : Reading) (short : Bool) : List Char → Option Reading
  | '_' :: cs =>
    if short then if isTail cs then some r else none
    else r.round (cs.dropWhile (· == '_'))
  | cs => r.round cs

/-- Reads on through digits, one point, and underscores after the first digit. -/
def Reading.run (r : Reading) : List Char → Option Reading
  | [] => if r.started then some r else none
  | c :: cs =>
    match digit? c with
    | some d =>
      let next := 10 * r.coefficient + d
      if decimalLimit ≤ next then
        if r.pointed then r.round (c :: cs) else none
      else
        let pushed := r.push next
        if pushed.pointed && decimalPlaces ≤ pushed.places then
          pushed.complete (r.coefficient < shortLimit) cs
        else pushed.run cs
    | none =>
      if c = '.' && !r.pointed then { r with pointed := true : Reading }.run cs
      else if c = '_' && r.started then r.run cs
      else none

/-- Positional notation after its sign, which a zero does not keep. -/
def readUnsigned? (negative : Bool) (cs : List Char) : Option Decimal :=
  (Reading.run {} cs).bind fun r => make? (negative && r.coefficient != 0) r.coefficient r.places

/-- Positional notation. -/
def readPositional? : List Char → Option Decimal
  | '-' :: cs => readUnsigned? true cs
  | '+' :: cs => readUnsigned? false cs
  | cs => readUnsigned? false cs

/-- Moves the point to the right by `n` places. Within the places written only their number
changes; beyond them the coefficient grows, and the number is a whole one. -/
def shiftRight? (x : Decimal) (n : Nat) : Option Decimal :=
  if n ≤ x.places then make? x.negative x.coefficient (x.places - n)
  else if decimalPlaces < n then none
  else make? x.negative (x.coefficient * tenPow (n - x.places)) 0

/-- The quotient to the nearest whole number, a half upwards. -/
def roundedQuotient (n d : Nat) : Nat := (2 * n + d) / (2 * d)

/-- Moves the point to the left by `n` places, and rounds away the places in excess. The sign stays,
even if nothing else is left. -/
def shiftLeft? (x : Decimal) (n : Nat) : Option Decimal :=
  if decimalPlaces < n then none
  else
    let excess := x.places + n - decimalPlaces
    make? x.negative (roundedQuotient x.coefficient (tenPow excess)) (x.places + n - excess)

/-- A positional number, the letter of the exponent, and the exponent: a natural number of 32 bits,
after at most one minus sign. -/
def readScientific? (cs : List Char) : Option Decimal :=
  let isMark (c : Char) : Bool := c == 'e' || c == 'E'
  match cs.dropWhile (fun c => !isMark c) with
  | [] => none
  | _ :: exponent =>
    (readPositional? (cs.takeWhile fun c => !isMark c)).bind fun x =>
      match exponent with
      | '-' :: exponent => (Integer.readUnsigned? 32 exponent).bind x.shiftLeft?
      | exponent => (Integer.readUnsigned? 32 exponent).bind x.shiftRight?

/-- The decimal that the characters denote, in positional or else in scientific notation. -/
def read? (cs : List Char) : Option Decimal :=
  (readPositional? cs).or (readScientific? cs)

/-- The text of a decimal: its sign, all its places, and a digit before the point. -/
def write (x : Decimal) : List Char :=
  let cs := paddedNumeral (x.places + 1) x.coefficient
  let whole := cs.take (cs.length - x.places)
  let sign := if x.negative then ['-'] else []
  if x.places = 0 then sign ++ whole
  else sign ++ whole ++ '.' :: cs.drop (cs.length - x.places)

end Decimal
end RowQuery
