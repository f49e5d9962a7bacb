import RowQuery.Calendar.Timestamp
import RowQuery.Text.Numeral

/-!
# Written dates and times

The ISO forms. A year outside 0 to 9999 has a sign. Fractions of a second have three, six or nine
places, the fewest that are exact, and none when there is no fraction. A leap second is second
sixty.
-/
namespace RowQuery
open Text

/-- Four digits, or a sign and at least four. -/
def yearText (year : Int) : List Char :=
  if 0 ≤ year ∧ year ≤ 9999 then paddedNumeral 4 year.toNat
  else (if year < 0 then '-' else '+') :: paddedNumeral 4 year.natAbs

/-- A point and the places of a fraction of a second, or nothing. -/
def nanoText (nano : Nat) : List Char :=
  if nano = 0 then []
  else if nano % 1000000 = 0 then '.' :: paddedNumeral 3 (nano / 1000000)
  else if nano % 1000 = 0 then '.' :: paddedNumeral 6 (nano / 1000)
  else '.' :: paddedNumeral 9 nano

def CivilDate.write (d : CivilDate) : List Char :=
  yearText d.year ++ '-' :: paddedNumeral 2 d.month ++ '-' :: paddedNumeral 2 d.day

def Clock.write (c : Clock) : List Char :=
  paddedNumeral 2 c.hour ++ ':' :: paddedNumeral 2 c.minute ++ ':' ::
    paddedNumeral 2 c.secondOfMinute ++ nanoText c.nanoOfSecond

def LocalTimestamp.write (t : LocalTimestamp) : List Char :=
  t.date.write ++ 'T' :: t.clock.write

def Offset.write (o : Offset) : List Char :=
  let n := o.minutes.natAbs
  (if o.minutes < 0 then '-' else '+') :: paddedNumeral 2 (n / 60) ++ ':' ::
    paddedNumeral 2 (n % 60)

def OffsetTimestamp.write (t : OffsetTimestamp) : List Char :=
  t.wallDate.write ++ 'T' :: t.wallClock.write ++ t.offset.write

end RowQuery
