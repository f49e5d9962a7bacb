import RowQuery.Number.Shortest
import RowQuery.Text.Case

/-!
# Written floating-point numbers

Reading takes an optional sign, digits with at most one point and at least one digit, and an
optional exponent, or one of the names of infinity and of what is not a number in any case. The
number read is the nearest one of the format, and infinity where none is near. Writing gives the
shortest digits that read back, always in positional notation.
-/
namespace RowQuery.FloatText
open Text

/-- A decimal in the text of a number: digits, how many of them follow the point, and an
exponent. -/
structure Literal where
  digits : List Nat
  places : Nat
  exponent : Int
  deriving DecidableEq, Repr

/-- An exponent after its letter: an optional sign and at least one digit, and nothing else. -/
def exponent? : List Char → Option Int
  | '-' :: cs => (natural? cs).map fun n => -(n : Int)
  | '+' :: cs => (natural? cs).map fun n => (n : Int)
  | cs => (natural? cs).map fun n => (n : Int)

/-- Digits with at most one point, and an optional exponent. -/
def literal? (cs : List Char) : Option Literal :=
  let (whole, rest) := takeAllDigits cs
  let (places, rest) :=
    match rest with
    | '.' :: rest => takeAllDigits rest
    | rest => ([], rest)
  if whole.isEmpty && places.isEmpty then none
  else
    match rest with
    | [] => some ⟨whole ++ places, places.length, 0⟩
    | c :: rest =>
      if c = 'e' ∨ c = 'E' then
        (exponent? rest).map fun e => ⟨whole ++ places, places.length, e⟩
      else none

/-- No finite number of a supported format has a decimal exponent beyond this. -/
def exponentReach : Int := 400

/-- The number of a format nearest to a literal. An exponent out of reach decides by itself. -/
def Literal.toBinary (f : BinaryFormat) (negative : Bool) (l : Literal) : Binary f :=
  let coefficient := ofDigits l.digits
  let exponent := l.exponent - l.places
  let reach := exponent + (Text.digits coefficient).length
  if coefficient = 0 then ⟨negative, 0⟩
  else if exponentReach < reach then .infinity negative
  else if reach < -exponentReach then ⟨negative, 0⟩
  else if 0 ≤ exponent then .ofRatio negative (coefficient * tenPow exponent.toNat) 1
  else .ofRatio negative coefficient (tenPow (-exponent).toNat)

/-- A number without its sign. -/
def readUnsigned? (f : BinaryFormat) (negative : Bool) (cs : List Char) : Option (Binary f) :=
  match literal? cs with
  | some l => some (l.toBinary f negative)
  | none =>
    let name := String.ofList (cs.map asciiLower)
    if name = "nan" then some (.nan negative)
    else if name = "inf" || name = "infinity" then some (.infinity negative)
    else none

/-- The number that the characters denote. -/
def read? (f : BinaryFormat) : List Char → Option (Binary f)
  | '-' :: cs => readUnsigned? f true cs
  | '+' :: cs => readUnsigned? f false cs
  | cs => readUnsigned? f false cs

/-- A decimal in positional notation, with a point only where digits follow it. -/
def positional (s : Shortest.Scientific) : List Char :=
  let cs := numeral s.coefficient
  if 0 ≤ s.exponent then cs ++ List.replicate s.exponent.toNat '0'
  else
    let places := (-s.exponent).toNat
    if places < cs.length then
      cs.take (cs.length - places) ++ '.' :: cs.drop (cs.length - places)
    else '0' :: '.' :: (List.replicate (places - cs.length) '0' ++ cs)

/-- The text of a number: the larger of two equally near shortest decimals, and no sign on what is
not a number. -/
def write {f : BinaryFormat} (x : Binary f) : List Char :=
  if x.isNaN then ['N', 'a', 'N']
  else
    let sign := if x.negative then ['-'] else []
    if x.isInfinite then sign ++ ['i', 'n', 'f']
    else sign ++ positional (Shortest.ofPattern .up f x.magnitude)

end RowQuery.FloatText
