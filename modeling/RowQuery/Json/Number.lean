import RowQuery.Json.Basic
import RowQuery.Number.Shortest

/-!
# The numbers of JSON

What a numeral denotes. An integer that fits 64 bits is itself. Every other number is floating: its
first digits, as many as make a number of 64 bits, become a floating-point number, and that is
multiplied or divided by one power of ten, so that the result may differ from the nearest number in
its last bit. A number too great to be finite is none; one too small is zero.

The text of a floating number has the shortest digits that read back. It is positional from 10⁻⁵ up
to below 10¹⁶ and has a digit after the point there; beyond, it has an exponent with its sign, where
a plus is written too.
-/
namespace RowQuery.Json
open Text

/-- A number as a document denotes it. -/
inductive Number where
  | nat (n : Nat)
  | int (n : Int)
  | float (x : Binary64)
  deriving DecidableEq, Repr

def natLimit : Nat := twoPow 64

/-- Takes up digits as long as the number fits 64 bits. The result is the number and how many digits
are left out. -/
def takeUp (significand : Nat) : List Nat → Nat × Nat
  | [] => (significand, 0)
  | d :: ds =>
    if 10 * significand + d < natLimit then takeUp (10 * significand + d) ds
    else (significand, ds.length + 1)

/-- The greatest exponent of a single step. -/
def powerLimit : Nat := 308

/-- A power of ten as a floating-point number. -/
def powerOfTen (n : Nat) : Binary64 := .ofRatio false (tenPow n) 1

/-- A number times a power of ten. Steps of the greatest exponent lead a number that needs a smaller
one to zero in a few rounds. -/
def scaleByTen : (rounds : Nat) → Binary64 → Int → Option Binary64
  | 0, x, _ => some x
  | rounds + 1, x, exponent =>
    if exponent.natAbs ≤ powerLimit then
      if 0 ≤ exponent then
        let y := x.mul (powerOfTen exponent.toNat)
        if y.isInfinite then none else some y
      else some (x.div (powerOfTen exponent.natAbs))
    else if x.isZero then some x
    else if 0 ≤ exponent then none
    else scaleByTen rounds (x.div (powerOfTen powerLimit)) (exponent + powerLimit)

namespace Numeral

/-- The floating-point number that a numeral denotes. -/
def float? (n : Numeral) : Option Binary64 :=
  let (whole, left) := takeUp 0 n.whole
  let (significand, dropped) := takeUp whole n.places
  let exponent : Int := left - (n.places.length - dropped : Nat) + n.exponent.getD 0
  (scaleByTen 4 (.ofRatio false significand 1) exponent).map fun x => ⟨n.negative, x.magnitude⟩

/-- The number that a numeral denotes, if it is finite. A negative zero is a floating one. -/
def number? (n : Numeral) : Option Number :=
  let whole := ofDigits n.whole
  if n.isInteger && !n.negative && whole < natLimit then some (.nat whole)
  else if n.isInteger && n.negative && whole != 0 && whole ≤ twoPow 63 then
    some (.int (-(whole : Int)))
  else n.float?.map .float

end Numeral

/-- Where positional notation ends at either side, by the exponent of the first digit. -/
def leastPositional : Int := -5
def mostPositional : Int := 15

/-- The digits of a decimal with a point after the first `count` of them and a digit behind it. -/
def pointAfter (count : Nat) (cs : List Char) : List Char :=
  cs.take count ++ '.' :: (if cs.length ≤ count then ['0'] else cs.drop count)

/-- A decimal in the notation of JSON. -/
def writeScientific (s : Shortest.Scientific) : List Char :=
  let cs := numeral s.coefficient
  let first : Int := s.exponent + cs.length - 1
  if first < leastPositional ∨ mostPositional < first then
    let mantissa := if cs.length = 1 then cs else pointAfter 1 cs
    mantissa ++ 'e' :: (if first < 0 then '-' else '+') :: numeral first.natAbs
  else if first < 0 then
    '0' :: '.' :: (List.replicate (first.natAbs - 1) '0' ++ cs)
  else pointAfter (first.toNat + 1) (cs ++ List.replicate s.exponent.toNat '0')

/-- The text of a number. -/
def Number.write : Number → List Char
  | nat n => numeral n
  | int n => signedNumeral n
  | float x =>
    (if x.negative then ['-'] else []) ++
      writeScientific (Shortest.ofPattern .even .double x.magnitude)

end RowQuery.Json
