/-!
# Times of day

A time of day is a second and nanoseconds within it. A leap second belongs to the second before it
and has more than 10⁹ nanoseconds; it can follow the last second of any minute, so that shifting by
whole minutes keeps it one.
-/
namespace RowQuery

def secondsPerDay : Nat := 86400
def nanosPerSecond : Nat := 1000000000

structure Clock where
  second : Nat
  nano : Nat
  second_lt : second < secondsPerDay
  nano_lt : nano < 2 * nanosPerSecond
  leap : nanosPerSecond ≤ nano → second % 60 = 59
  deriving DecidableEq, Repr

namespace Clock

instance : Inhabited Clock := ⟨⟨0, 0, by decide, by decide, by decide⟩⟩

/-- The time with the given hour, minute, second and nanosecond. The sixtieth second of a minute is
its leap second. -/
def make? (hour minute second nano : Nat) : Option Clock :=
  if h : hour < 24 ∧ minute < 60 ∧ second ≤ 60 ∧ nano < nanosPerSecond then
    if h60 : second = 60 then
      some ⟨(hour * 60 + minute) * 60 + 59, nano + nanosPerSecond,
        by simp only [secondsPerDay]; omega, by omega, fun _ => by omega⟩
    else
      some ⟨(hour * 60 + minute) * 60 + second, nano,
        by simp only [secondsPerDay]; omega, by omega, fun _ => by omega⟩
  else none

def hour (c : Clock) : Nat := c.second / 3600
def minute (c : Clock) : Nat := c.second / 60 % 60

/-- The second as written: sixty for a leap second. -/
def secondOfMinute (c : Clock) : Nat := c.second % 60 + c.nano / nanosPerSecond

/-- The nanoseconds as written. -/
def nanoOfSecond (c : Clock) : Nat := c.nano % nanosPerSecond

/-- A number that orders times of day. -/
def position (c : Clock) : Nat := c.second * (2 * nanosPerSecond) + c.nano

/-- The second that is `minutes` later, counted from midnight of the same day. -/
def secondAfter (c : Clock) (minutes : Int) : Int := c.second + 60 * minutes

/-- The time of day `minutes` later. -/
def shift (c : Clock) (minutes : Int) : Clock :=
  ⟨(c.secondAfter minutes % secondsPerDay).toNat, c.nano,
    by simp only [secondsPerDay]; omega, c.nano_lt,
    fun h => by have := c.leap h; simp only [secondAfter, secondsPerDay]; omega⟩

/-- How many midnights lie between a time and the time `minutes` later. -/
def carry (c : Clock) (minutes : Int) : Int := c.secondAfter minutes / secondsPerDay

end Clock
end RowQuery
