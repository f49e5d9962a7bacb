import RowQuery.Calendar.Date
import RowQuery.Calendar.Clock

/-!
# Timestamps

A local timestamp is a date and a time of day. An offset timestamp is an instant, held as its local
timestamp in universal time, and the offset in which it was given: timestamps of one instant are
equal in order whatever their offsets.
-/
namespace RowQuery

structure LocalTimestamp where
  date : Date
  clock : Clock
  deriving DecidableEq, Repr, Inhabited

/-- A number that orders local timestamps. -/
def LocalTimestamp.position (t : LocalTimestamp) : Int :=
  t.date.position * (secondsPerDay * (2 * nanosPerSecond) : Nat) + t.clock.position

/-- A number of whole minutes east of universal time, less than a day. -/
structure Offset where
  minutes : Int
  minutes_mem : -1440 < minutes ∧ minutes < 1440
  deriving DecidableEq, Repr

namespace Offset

def utc : Offset := ⟨0, by decide⟩

def make? (minutes : Int) : Option Offset :=
  if h : -1440 < minutes ∧ minutes < 1440 then some ⟨minutes, h⟩ else none

end Offset

structure OffsetTimestamp where
  instant : LocalTimestamp
  offset : Offset
  deriving DecidableEq, Repr

namespace OffsetTimestamp

instance : Inhabited OffsetTimestamp := ⟨⟨default, .utc⟩⟩

/-- The timestamp that reads `t` on the wall in the given offset. Its instant may fall into the
neighbouring day, which has to be a supported date. -/
def ofWall? (t : LocalTimestamp) (offset : Offset) : Option OffsetTimestamp :=
  (Date.ofCivil? (t.date.move (t.clock.carry (-offset.minutes)))).map fun date =>
    ⟨⟨date, t.clock.shift (-offset.minutes)⟩, offset⟩

/-- The day on the wall in the timestamp's own offset. -/
def wallDate (t : OffsetTimestamp) : CivilDate :=
  t.instant.date.move (t.instant.clock.carry t.offset.minutes)

/-- The time on the wall in the timestamp's own offset. -/
def wallClock (t : OffsetTimestamp) : Clock := t.instant.clock.shift t.offset.minutes

/-- The same instant in universal time. -/
def toUtc (t : OffsetTimestamp) : OffsetTimestamp := ⟨t.instant, .utc⟩

/-- A number that orders instants. -/
def position (t : OffsetTimestamp) : Int := t.instant.position

end OffsetTimestamp
end RowQuery
