import RowQuery.Calendar.Timestamp

/-!
# Dates, times and offsets taken apart and put together

The number of a day, a time as its hour, minute, second and nanosecond, and an instant as what the
wall shows in an offset all say everything about what they were taken from. Shifting to the wall may
cross one midnight, in either direction; shifting back crosses the same midnight again, so that the
day that comes back is the day that was left.
-/
namespace RowQuery

/-! ## Neighbouring days -/

namespace CivilDate

theorem eq_of_parts {d e : CivilDate} (year : d.year = e.year) (month : d.month = e.month)
    (day : d.day = e.day) : d = e := by
  cases d
  cases e
  cases year
  cases month
  cases day
  rfl

theorem next_prev (d : CivilDate) : d.prev.next = d := by
  have month_mem := d.month_mem
  have day_mem := d.day_mem
  by_cases within : 1 < d.day
  · have earlier : d.day - 1 < daysInMonth d.year d.month := by omega
    have day : d.day - 1 + 1 = d.day := by omega
    apply eq_of_parts <;> simp [prev, next, within, earlier, day]
  · have first : d.day = 1 := by omega
    by_cases later : 1 < d.month
    · have earlier : d.month - 1 < 12 := by omega
      have month : d.month - 1 + 1 = d.month := by omega
      apply eq_of_parts <;> simp [prev, next, later, earlier, month, first]
    · have january : d.month = 1 := by omega
      apply eq_of_parts <;> simp [prev, next, daysInMonth, first, january]

theorem prev_next (d : CivilDate) : d.next.prev = d := by
  have month_mem := d.month_mem
  have day_mem := d.day_mem
  by_cases within : d.day < daysInMonth d.year d.month
  · have later : 0 < d.day := day_mem.1
    apply eq_of_parts <;> simp [prev, next, within, later]
  · have last : daysInMonth d.year d.month = d.day := by omega
    by_cases earlier : d.month < 12
    · have later : 0 < d.month := month_mem.1
      apply eq_of_parts <;> simp [prev, next, earlier, later, last]
    · have december : d.month = 12 := by omega
      have day : d.day = 31 := by
        rw [← last, december]
        rfl
      apply eq_of_parts <;> simp [prev, next, daysInMonth, december, day]

theorem move_neg_move (d : CivilDate) (carry : Int) : (d.move carry).move (-carry) = d := by
  unfold move
  by_cases back : carry < 0
  · have forward : ¬ -carry < 0 := by omega
    have positive : 0 < -carry := by omega
    simp only [back, forward, positive, if_true, if_false, next_prev]
  · by_cases forward : 0 < carry
    · have negative : -carry < 0 := by omega
      simp only [back, forward, negative, if_true, if_false, prev_next]
    · have still : ¬ -carry < 0 ∧ ¬ 0 < -carry := by omega
      simp only [back, forward, still.1, still.2, if_false]

theorem make?_self (d : CivilDate) : make? d.year d.month d.day = some d := by
  rw [make?, dif_pos ⟨d.month_mem, d.day_mem⟩]

end CivilDate

namespace Date

theorem ofCivil?_self (d : Date) : ofCivil? d.toCivilDate = some d := by
  rw [ofCivil?, dif_pos d.year_mem]

theorem toCivilDate_of_ofCivil? {d : CivilDate} {date : Date} (supported : ofCivil? d = some date) :
    date.toCivilDate = d := by
  unfold ofCivil? at supported
  split at supported
  · cases supported
    rfl
  · cases supported

theorem make?_self (d : Date) : make? d.year d.month d.day = some d := by
  rw [make?, CivilDate.make?_self, Option.bind_some, ofCivil?_self]

end Date

/-! ## Times of day -/

namespace Clock

theorem eq_of_parts {a b : Clock} (second : a.second = b.second) (nano : a.nano = b.nano) :
    a = b := by
  cases a
  cases b
  cases second
  cases nano
  rfl

theorem hour_lt (c : Clock) : c.hour < 24 := by
  have bound := c.second_lt
  simp only [hour, secondsPerDay] at bound ⊢
  omega

theorem minute_lt (c : Clock) : c.minute < 60 := Nat.mod_lt _ (by decide)

theorem nanoOfSecond_lt (c : Clock) : c.nanoOfSecond < nanosPerSecond := Nat.mod_lt _ (by decide)

/-- Only a leap second is second sixty, and no other second becomes it. -/
theorem secondOfMinute_le (c : Clock) : c.secondOfMinute ≤ 60 := by
  have bound := c.nano_lt
  have leap := c.leap
  simp only [secondOfMinute, nanosPerSecond] at *
  omega

/-- The written parts of a time are those of no other time. -/
theorem make?_self (c : Clock) :
    make? c.hour c.minute c.secondOfMinute c.nanoOfSecond = some c := by
  have second_lt := c.second_lt
  have nano_lt := c.nano_lt
  have leap := c.leap
  rw [make?, dif_pos ⟨c.hour_lt, c.minute_lt, c.secondOfMinute_le, c.nanoOfSecond_lt⟩]
  by_cases sixty : c.secondOfMinute = 60
  · have shown : c.second % 60 + c.nano / nanosPerSecond = 60 := sixty
    rw [dif_pos sixty]
    refine congrArg some (eq_of_parts ?_ ?_)
    all_goals
      simp only [hour, minute, nanoOfSecond, nanosPerSecond, secondsPerDay] at *
      omega
  · have shown : ¬ c.second % 60 + c.nano / nanosPerSecond = 60 := sixty
    rw [dif_neg sixty]
    refine congrArg some (eq_of_parts ?_ ?_)
    all_goals
      simp only [hour, minute, secondOfMinute, nanoOfSecond, nanosPerSecond, secondsPerDay] at *
      omega

theorem shift_neg_shift (c : Clock) (minutes : Int) : (c.shift minutes).shift (-minutes) = c := by
  have bound := c.second_lt
  refine eq_of_parts ?_ rfl
  simp only [shift, secondAfter, secondsPerDay] at *
  omega

/-- The midnight that lies between is crossed both ways. -/
theorem carry_neg_shift (c : Clock) (minutes : Int) :
    (c.shift minutes).carry (-minutes) = -c.carry minutes := by
  have bound := c.second_lt
  simp only [carry, shift, secondAfter, secondsPerDay] at *
  omega

theorem shift_zero (c : Clock) : c.shift 0 = c := by
  have bound := c.second_lt
  refine eq_of_parts ?_ rfl
  simp only [shift, secondAfter, secondsPerDay] at *
  omega

theorem carry_zero (c : Clock) : c.carry 0 = 0 := by
  have bound := c.second_lt
  simp only [carry, secondAfter, secondsPerDay] at *
  omega

end Clock

/-! ## The wall -/

theorem Offset.make?_self (o : Offset) : make? o.minutes = some o := by
  rw [make?, dif_pos o.minutes_mem]

/-- A timestamp is the one that shows its own wall date and time in its own offset. -/
theorem OffsetTimestamp.ofWall?_wall {t : OffsetTimestamp} {wall : Date}
    (shown : t.wallDate = wall.toCivilDate) : ofWall? ⟨wall, t.wallClock⟩ t.offset = some t := by
  have clock : t.wallClock.shift (-t.offset.minutes) = t.instant.clock :=
    Clock.shift_neg_shift t.instant.clock t.offset.minutes
  have date : wall.move (t.wallClock.carry (-t.offset.minutes)) = t.instant.date.toCivilDate := by
    rw [← shown, wallDate, wallClock, Clock.carry_neg_shift, CivilDate.move_neg_move]
  simp only [ofWall?, clock, date, Date.ofCivil?_self, Option.map_some]

namespace OffsetTimestamp

/-- The local timestamp is what the wall shows in the timestamp's own offset. -/
def Shows (t : OffsetTimestamp) (wall : LocalTimestamp) : Prop :=
  t.wallDate = wall.date.toCivilDate ∧ t.wallClock = wall.clock

theorem shows_of_ofWall? {wall : LocalTimestamp} {offset : Offset} {t : OffsetTimestamp}
    (made : ofWall? wall offset = some t) : t.Shows wall := by
  obtain ⟨date, supported, rfl⟩ := Option.map_eq_some_iff.1 made
  have day : date.toCivilDate = wall.date.move (wall.clock.carry (-offset.minutes)) :=
    Date.toCivilDate_of_ofCivil? supported
  have clock := wall.clock.shift_neg_shift (-offset.minutes)
  have carry := wall.clock.carry_neg_shift (-offset.minutes)
  rw [Int.neg_neg] at clock carry
  refine ⟨?_, clock⟩
  change date.move ((wall.clock.shift (-offset.minutes)).carry offset.minutes) = _
  rw [day, carry, CivilDate.move_neg_move]

/-- In universal time the wall shows the instant. -/
theorem shows_utc (t : LocalTimestamp) : Shows ⟨t, .utc⟩ t := by
  refine ⟨?_, t.clock.shift_zero⟩
  change t.date.move (t.clock.carry 0) = _
  rw [t.clock.carry_zero]
  rfl

end OffsetTimestamp
end RowQuery
