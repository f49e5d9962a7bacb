import RowQuery.Number.Binary
import RowQuery.Text.Numeral

/-!
# Shortest decimals

The decimal with the fewest digits that rounds to a given binary number. Grids of ever finer powers
of ten are tried in turn; on the first grid that meets the interval of numbers rounding to the given
one, the point nearest to it is the answer. Only the two grid points beside the number need a look.
-/
namespace RowQuery.Shortest

/-- Which of two equally near decimals is taken. -/
inductive Tie where
  | up | even
  deriving DecidableEq, Repr

/-- The numbers that round to one number `mid`, between `low` and `high`. -/
structure Interval where
  low : Nat
  mid : Nat
  high : Nat
  closed : Bool
  deriving DecidableEq, Repr

def Interval.holds (i : Interval) (n : Nat) : Bool :=
  if i.closed then i.low ≤ n && n ≤ i.high else i.low < n && n < i.high

/-- The interval measured in units made finer by a factor. -/
def Interval.scale (i : Interval) (factor : Nat) : Interval :=
  ⟨i.low * factor, i.mid * factor, i.high * factor, i.closed⟩

/-- The interval of a positive pattern, in halves of a unit: it ends half-way to the neighbouring
patterns, and the ends belong to it when the pattern is even. -/
def Interval.ofPattern (f : BinaryFormat) (pattern : Nat) : Interval :=
  let here := f.units pattern
  ⟨f.units (pattern - 1) + here, 2 * here, here + f.units (pattern + 1), pattern % 2 == 0⟩

/-- The multiple of `step` in the interval that is nearest to its middle, if there is one, as the
number of steps. -/
def multiple? (tie : Tie) (i : Interval) (step : Nat) : Option Nat :=
  let below := i.mid / step
  let down := i.mid - below * step
  let up := (below + 1) * step - i.mid
  match i.holds (below * step), i.holds ((below + 1) * step) with
  | true, true =>
    if down < up then some below
    else if up < down then some (below + 1)
    else match tie with
      | .up => some (below + 1)
      | .even => some (if below % 2 == 0 then below else below + 1)
  | true, false => some below
  | false, true => some (below + 1)
  | false, false => none

/-- A decimal: a coefficient times a power of ten. -/
structure Scientific where
  coefficient : Nat
  exponent : Int
  deriving DecidableEq, Repr

/-- The first hit on the grids of exponent `exponent`, `exponent - 1`, …, for an interval measured
in parts of which `whole` make one. -/
def search (tie : Tie) (i : Interval) (whole : Nat) : (fuel : Nat) → (exponent : Int) → Scientific
  | 0, exponent => ⟨0, exponent⟩
  | fuel + 1, exponent =>
    let hit :=
      if 0 ≤ exponent then multiple? tie i (tenPow exponent.toNat * whole)
      else multiple? tie (i.scale (tenPow (-exponent).toNat)) whole
    match hit with
    | some coefficient => ⟨coefficient, exponent⟩
    | none => search tie i whole fuel (exponent - 1)

/-- The shortest decimal of a finite pattern. Every number of the format has a decimal of as many
places as the format has below the point, so that the search always meets one. -/
def ofPattern (tie : Tie) (f : BinaryFormat) (pattern : Nat) : Scientific :=
  if pattern = 0 then ⟨0, 0⟩
  else
    let i := Interval.ofPattern f pattern
    let whole := twoPow (f.unitExponent + 1)
    let start := (Text.digits (i.high / whole)).length
    search tie i whole (start + f.unitExponent + 2) start

end RowQuery.Shortest
