/-!
# Dates

Days of the Gregorian calendar, extended to all years in both directions; the year before the year
one is zero. A `CivilDate` is any such day. A `Date` is one of a supported year, which every date
that is read or stored belongs to.
-/
namespace RowQuery

/-- A year with a twenty-ninth of February. -/
def isLeapYear (year : Int) : Bool := year % 4 == 0 && (year % 100 != 0 || year % 400 == 0)

/-- The number of days in a month. -/
def daysInMonth (year : Int) (month : Nat) : Nat :=
  if month = 2 then (if isLeapYear year then 29 else 28)
  else if month = 4 ∨ month = 6 ∨ month = 9 ∨ month = 11 then 30
  else 31

theorem daysInMonth_pos (year : Int) (month : Nat) : 28 ≤ daysInMonth year month := by
  unfold daysInMonth; split
  · split <;> omega
  · split <;> omega

theorem daysInMonth_le (year : Int) (month : Nat) : daysInMonth year month ≤ 31 := by
  unfold daysInMonth; split
  · split <;> omega
  · split <;> omega

/-- A day of the calendar. -/
structure CivilDate where
  year : Int
  month : Nat
  day : Nat
  month_mem : 1 ≤ month ∧ month ≤ 12
  day_mem : 1 ≤ day ∧ day ≤ daysInMonth year month
  deriving DecidableEq, Repr

namespace CivilDate

/-- The day with the given number in the given month, if the month has one. -/
def make? (year : Int) (month day : Nat) : Option CivilDate :=
  if h : (1 ≤ month ∧ month ≤ 12) ∧ 1 ≤ day ∧ day ≤ daysInMonth year month then
    some ⟨year, month, day, h.1, h.2⟩
  else none

/-- The following day. -/
def next (d : CivilDate) : CivilDate :=
  if h : d.day < daysInMonth d.year d.month then
    ⟨d.year, d.month, d.day + 1, d.month_mem, by omega, h⟩
  else if h : d.month < 12 then
    ⟨d.year, d.month + 1, 1, by omega, by decide,
      Nat.le_trans (by decide) (daysInMonth_pos d.year (d.month + 1))⟩
  else ⟨d.year + 1, 1, 1, by decide, by decide,
      Nat.le_trans (by decide) (daysInMonth_pos (d.year + 1) 1)⟩

/-- The preceding day. -/
def prev (d : CivilDate) : CivilDate :=
  if h : 1 < d.day then
    ⟨d.year, d.month, d.day - 1, d.month_mem, by have := d.day_mem; omega⟩
  else if h : 1 < d.month then
    ⟨d.year, d.month - 1, daysInMonth d.year (d.month - 1), by have := d.month_mem; omega,
      Nat.le_trans (by decide) (daysInMonth_pos d.year (d.month - 1)), Nat.le_refl _⟩
  else ⟨d.year - 1, 12, 31, by decide, by simp [daysInMonth]⟩

/-- A number that orders days as the calendar does. -/
def position (d : CivilDate) : Int := (d.year * 16 + d.month) * 32 + d.day

/-- The day before, the day itself, or the day after, by the sign of `carry`. -/
def move (d : CivilDate) (carry : Int) : CivilDate :=
  if carry < 0 then d.prev else if 0 < carry then d.next else d

end CivilDate

def firstYear : Int := -262143
def lastYear : Int := 262142

/-- A day of a supported year. -/
structure Date extends CivilDate where
  year_mem : firstYear ≤ year ∧ year ≤ lastYear
  deriving DecidableEq, Repr

namespace Date

instance : Inhabited Date := ⟨⟨⟨1970, 1, 1, by decide, by decide⟩, by decide⟩⟩

/-- The date of a day whose year is supported. -/
def ofCivil? (d : CivilDate) : Option Date :=
  if h : firstYear ≤ d.year ∧ d.year ≤ lastYear then some ⟨d, h⟩ else none

def make? (year : Int) (month day : Nat) : Option Date :=
  (CivilDate.make? year month day).bind ofCivil?

end Date
end RowQuery
