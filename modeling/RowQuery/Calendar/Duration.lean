import RowQuery.Text.Numeral

/-!
# Durations

A signed length of time in nanoseconds, bounded by what fits 63 bits of milliseconds. The text read
is a number of days, or hours and minutes with optional days before and seconds after them; one
minus sign in front turns the whole. The text written is the ISO form in seconds.
-/
namespace RowQuery
open Text

/-- No duration is longer than this many nanoseconds. -/
def durationLimit : Nat := (twoPow 63 - 1) * 1000000

structure Duration where
  nanos : Int
  nanos_le : nanos.natAbs ≤ durationLimit
  deriving DecidableEq, Repr

namespace Duration

instance : Inhabited Duration := ⟨⟨0, by decide⟩⟩

def make? (nanos : Int) : Option Duration :=
  if h : nanos.natAbs ≤ durationLimit then some ⟨nanos, h⟩ else none

def neg (d : Duration) : Duration := ⟨-d.nanos, by simpa using d.nanos_le⟩

/-- Whole milliseconds, the rest left out. -/
def millis (d : Duration) : Int := d.nanos.tdiv 1000000

/-- The parts of a text before and after the first occurrence of a character. -/
def splitAt? (c : Char) (cs : List Char) : Option (List Char × List Char) :=
  match cs.dropWhile (· != c) with
  | [] => none
  | _ :: after => some (cs.takeWhile (· != c), after)

/-- A field is an integer of 64 bits, with a sign of its own. -/
def field? (cs : List Char) : Option Int := Integer.readSigned? 63 cs

/-- A field of a clock, below the given bound. -/
def clockField? (bound : Int) (cs : List Char) : Option Int :=
  (field? cs).filter fun n => 0 ≤ n && n < bound

/-- A fraction of a second in nanoseconds: digits alone, of which the first nine count. -/
def fraction? (cs : List Char) : Option Int :=
  match takeAllDigits cs with
  | (d :: ds, []) => some (ofPlaces 9 (d :: ds))
  | _ => none

def nanosPerDay : Int := 86400 * 1000000000

/-- A whole number of days. -/
def days? (n : Int) : Option Duration := make? (n * nanosPerDay)

/-- The fields after the hours: minutes, and seconds with the nanoseconds of their fraction. -/
def minutesAndSeconds? (cs : List Char) : Option (Int × Int × Int) :=
  match splitAt? ':' cs with
  | none => (clockField? 60 cs).map fun minutes => (minutes, 0, 0)
  | some (minutes, seconds) => do
    let m ← clockField? 60 minutes
    match splitAt? '.' seconds with
    | none => do
      let s ← clockField? 60 seconds
      return (m, s, 0)
    | some (whole, fraction) => do
      let s ← clockField? 60 whole
      let f ← fraction? fraction
      return (m, s, f)

/-- The fields before the minutes: hours, and days in front of them. -/
def daysAndHours? (cs : List Char) : Option (Int × Int) :=
  match splitAt? '.' cs with
  | none => (clockField? 24 cs).map fun hours => (0, hours)
  | some (days, hours) => do
    let d ← field? days
    let h ← clockField? 24 hours
    return (d, h)

/-- The sum of a duration and some nanoseconds: these have to make a duration, and so does the sum. -/
def add? (d : Duration) (nanos : Int) : Option Duration :=
  (make? nanos).bind fun part => make? (d.nanos + part.nanos)

/-- A duration without the sign in front: the days, to which the other parts are added one after
another. -/
def readBody? (cs : List Char) : Option Duration :=
  match splitAt? ':' cs with
  | none => (field? cs).bind days?
  | some (head, clock) => do
    let (days, hours) ← daysAndHours? head
    let (minutes, seconds, nanos) ← minutesAndSeconds? clock
    let start ← days? days
    [hours * 3600000000000, minutes * 60000000000, seconds * 1000000000, nanos].foldlM add? start

/-- The duration that the characters denote. -/
def read? : List Char → Option Duration
  | '-' :: cs => (readBody? cs).map neg
  | cs => readBody? cs

/-- The places after the point of a number of nanoseconds below one second, without the zeros at
the end. -/
def fractionText (nanos : Nat) : List Char :=
  ((paddedNumeral 9 nanos).reverse.dropWhile (· == '0')).reverse

/-- The ISO form in seconds. -/
def write (d : Duration) : List Char :=
  let n := d.nanos.natAbs
  if n = 0 then ['P', '0', 'D']
  else
    let sign := if d.nanos < 0 then ['-'] else []
    let nanos := n % 1000000000
    sign ++ ['P', 'T'] ++ numeral (n / 1000000000) ++
      (if nanos = 0 then [] else '.' :: fractionText nanos) ++ ['S']

end Duration
end RowQuery
