import RowQuery.Text.Numeral

/-!
# Binary floating point

Numbers of a binary format in exact arithmetic: a sign and a magnitude, where the magnitude is the
bit pattern below the sign. Patterns count upwards with the numbers they stand for, so comparing
numbers is comparing patterns; the patterns above infinity are not numbers.

A finite magnitude is a whole number of *units*, the least positive number of the format, and every
rounding is the nearest pattern of a rational number of units, ties going to the even pattern.
-/
namespace RowQuery

/-- A format by the widths of its two fields. -/
structure BinaryFormat where
  fractionBits : Nat
  exponentBits : Nat
  deriving DecidableEq, Repr

namespace BinaryFormat

def single : BinaryFormat := ⟨23, 8⟩
def double : BinaryFormat := ⟨52, 11⟩

/-- The least positive number of the format is two to the minus this. -/
def unitExponent (f : BinaryFormat) : Nat := twoPow (f.exponentBits - 1) + f.fractionBits - 2

/-- The pattern of infinity. -/
def infinity (f : BinaryFormat) : Nat := (twoPow f.exponentBits - 1) * twoPow f.fractionBits

/-- The pattern written for a result that is not a number. -/
def notANumber (f : BinaryFormat) : Nat := f.infinity + twoPow (f.fractionBits - 1)

/-- The number of units that a pattern stands for. Above infinity the sequence of numbers simply
goes on, which gives the largest finite number its upper neighbour. -/
def units (f : BinaryFormat) (pattern : Nat) : Nat :=
  let exponent := pattern / twoPow f.fractionBits
  if exponent = 0 then pattern
  else (twoPow f.fractionBits + pattern % twoPow f.fractionBits) * twoPow (exponent - 1)

/-- The quotient rounded to the nearest natural number, a half to the even one. -/
def roundHalfEven (num den : Nat) : Nat :=
  let q := num / den
  let r := num % den
  if den < 2 * r || (2 * r == den && q % 2 == 1) then q + 1 else q

/-- The pattern nearest to `num / den` units; a carry out of the fraction is the next exponent. -/
def nearestUnits (f : BinaryFormat) (num den : Nat) : Nat :=
  let shift := (num / den).log2 - f.fractionBits
  let pattern := shift * twoPow f.fractionBits + roundHalfEven num (den * twoPow shift)
  min pattern f.infinity

/-- The pattern nearest to the number `num / den`. -/
def nearest (f : BinaryFormat) (num den : Nat) : Nat :=
  f.nearestUnits (num * twoPow f.unitExponent) den

end BinaryFormat

/-- A number of a binary format, an infinity, or no number. -/
structure Binary (f : BinaryFormat) where
  negative : Bool
  magnitude : Nat
  deriving DecidableEq, Repr

abbrev Binary32 := Binary .single
abbrev Binary64 := Binary .double

namespace Binary
variable {f : BinaryFormat}

/-- The number nearest to `num / den`, with the given sign. -/
def ofRatio (negative : Bool) (num den : Nat) : Binary f := ⟨negative, f.nearest num den⟩

def infinity (negative : Bool) : Binary f := ⟨negative, f.infinity⟩
def nan (negative : Bool) : Binary f := ⟨negative, f.notANumber⟩

instance : Inhabited (Binary f) := ⟨⟨false, 0⟩⟩

def isNaN (x : Binary f) : Bool := f.infinity < x.magnitude
def isInfinite (x : Binary f) : Bool := x.magnitude == f.infinity
def isZero (x : Binary f) : Bool := x.magnitude == 0

/-- The pattern with its sign; the two zeros agree. -/
def signed (x : Binary f) : Int := if x.negative then -(x.magnitude : Int) else x.magnitude

/-- The numerical order: none where one side is not a number. -/
def compare? (x y : Binary f) : Option Ordering :=
  if x.isNaN || y.isNaN then none else some (compare x.signed y.signed)

/-- The place of every pattern on one line: what is not a number lies outside the infinities, and
the negative zero comes just before the positive one. -/
def position (x : Binary f) : Int :=
  if x.negative then -(x.magnitude : Int) - 1 else x.magnitude

/-- The product, rounded once. -/
def mul (x y : Binary f) : Binary f :=
  ⟨x.negative != y.negative,
    f.nearestUnits (f.units x.magnitude * f.units y.magnitude) (twoPow f.unitExponent)⟩

/-- The quotient by a number other than zero, rounded once. -/
def div (x y : Binary f) : Binary f :=
  ⟨x.negative != y.negative,
    f.nearestUnits (f.units x.magnitude * twoPow f.unitExponent) (f.units y.magnitude)⟩

end Binary

/-- The same number in the wider format, where it is always exact. -/
def Binary32.widen (x : Binary32) : Binary64 :=
  if x.isNaN then .nan x.negative
  else if x.isInfinite then .infinity x.negative
  else .ofRatio x.negative (BinaryFormat.single.units x.magnitude)
    (twoPow BinaryFormat.single.unitExponent)

end RowQuery
