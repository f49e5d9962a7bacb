import RowQuery.Calendar.Pattern
import RowQuery.Calendar.Written
import RowQuery.Proofs.Calendar.Wall
import RowQuery.Proofs.Text.Numeral

/-!
# Written dates and times read back

Each item of a pattern takes exactly what was written for it, so a pattern that names the parts of a
written form in their order finds all of them. What decides where an item ends differs: most numbers
are as wide as their item reads, while a signed year and a fraction have any number of digits and
end where a character that is no digit follows.

The internet format has years of four digits only. A timestamp of any other year starts with a sign,
which that format rejects, and is left to the lenient patterns; of these the one that parts date and
time by blanks stops at the letter T.
-/
namespace RowQuery.Calendar
open Text

/-! ## Numbers -/

theorem takeNumber?_map_digitChar {ds : List Nat} (small : ∀ d ∈ ds, d < 10) {least most : Nat}
    (enough : least ≤ ds.length) (fits : ds.length ≤ most) {rest : List Char}
    (stop : ds.length = most ∨ NoDigit rest) :
    takeNumber? least most (ds.map digitChar ++ rest) = some (ofDigits ds, rest) := by
  rw [takeNumber?, takeDigits_map_digitChar small fits stop]
  exact if_neg (Nat.not_lt.2 enough)

/-- A numeral of full width is taken whatever follows. -/
theorem takeNumber?_paddedNumeral {least k n : Nat} (enough : least ≤ k + 1)
    (fits : n < tenPow (k + 1)) (rest : List Char) :
    takeNumber? least (k + 1) (paddedNumeral (k + 1) n ++ rest) = some (n, rest) := by
  have length := length_paddedDigits fits
  rw [paddedNumeral_eq, takeNumber?_map_digitChar (paddedDigits_lt _ n) (by omega)
    (Nat.le_of_eq length) (Or.inl length), ofDigits_paddedDigits]

/-- The digits after the sign of a year, as many as there are. -/
theorem takeNumber?_signed (n : Nat) {rest : List Char} (stop : NoDigit rest) :
    takeNumber? 1 (paddedNumeral 4 n ++ rest).length (paddedNumeral 4 n ++ rest) =
      some (n, rest) := by
  have wide := le_length_paddedDigits 4 n
  rw [paddedNumeral_eq, takeNumber?_map_digitChar (paddedDigits_lt 4 n) (by omega)
    (by simp) (Or.inr stop), ofDigits_paddedDigits]

theorem dropBlanks_paddedNumeral (width n : Nat) (rest : List Char) :
    dropBlanks (paddedNumeral width n ++ rest) = paddedNumeral width n ++ rest := by
  obtain ⟨d, small, cs, starts⟩ := paddedNumeral_eq_cons width n
  rw [starts, List.cons_append, dropBlanks_of_head (isBlank_digitChar small)]

/-! ## Years -/

theorem takeYear?_yearText (year : Int) {rest : List Char} (stop : NoDigit rest) :
    takeYear? (yearText year ++ rest) = some (year, rest) := by
  unfold yearText
  split
  · rename_i unsigned
    have value : (year.toNat : Int) = year := by omega
    have taken : takeNumber? 1 4 (paddedNumeral 4 year.toNat ++ rest) = some (year.toNat, rest) :=
      takeNumber?_paddedNumeral (by decide) (show year.toNat < 10000 by omega) rest
    obtain ⟨d, small, cs, starts⟩ := paddedNumeral_eq_cons 4 year.toNat
    rw [starts, List.cons_append] at taken ⊢
    rw [takeYear?, taken, Option.map_some]
    · dsimp only
      rw [value]
    · intro _ minus
      exact digitChar_ne small rfl (List.cons.inj minus).1
    · intro _ plus
      exact digitChar_ne small rfl (List.cons.inj plus).1
  · have taken := takeNumber?_signed year.natAbs stop
    by_cases negative : year < 0
    · have value : -(year.natAbs : Int) = year := by omega
      rw [if_pos negative, List.cons_append, takeYear?, taken, Option.map_some]
      dsimp only
      rw [value]
    · have value : (year.natAbs : Int) = year := by omega
      rw [if_neg negative, List.cons_append, takeYear?, taken, Option.map_some]
      dsimp only
      rw [value]

theorem dropBlanks_yearText (year : Int) (rest : List Char) :
    dropBlanks (yearText year ++ rest) = yearText year ++ rest := by
  unfold yearText
  split
  · exact dropBlanks_paddedNumeral 4 year.toNat rest
  · refine dropBlanks_of_head ?_
    split <;> decide

/-! ## Characters of the written forms -/

theorem solid_yearText (year : Int) : Solid (yearText year) := by
  unfold yearText
  split
  · exact solid_paddedNumeral 4 year.toNat
  · refine solid_cons.2 ⟨?_, solid_paddedNumeral 4 year.natAbs⟩
    split <;> decide

theorem solid_nanoText (nano : Nat) : Solid (nanoText nano) := by
  have point (width n : Nat) : Solid ('.' :: paddedNumeral width n) :=
    solid_cons.2 ⟨by decide, solid_paddedNumeral width n⟩
  unfold nanoText
  split
  · exact solid_nil
  · split
    · exact point 3 _
    · split
      · exact point 6 _
      · exact point 9 _

theorem solid_date (d : CivilDate) : Solid d.write := by
  simp only [CivilDate.write, solid_append, solid_cons]
  exact ⟨⟨solid_yearText d.year, by decide, solid_paddedNumeral 2 d.month⟩, by decide,
    solid_paddedNumeral 2 d.day⟩

theorem solid_clock (c : Clock) : Solid c.write := by
  simp only [Clock.write, solid_append, solid_cons]
  exact ⟨⟨⟨solid_paddedNumeral 2 c.hour, by decide, solid_paddedNumeral 2 c.minute⟩, by decide,
    solid_paddedNumeral 2 c.secondOfMinute⟩, solid_nanoText c.nanoOfSecond⟩

theorem solid_local (t : LocalTimestamp) : Solid t.write :=
  solid_append.2 ⟨solid_date t.date.toCivilDate, solid_cons.2 ⟨by decide, solid_clock t.clock⟩⟩

theorem solid_offset (o : Offset) : Solid o.write := by
  simp only [Offset.write, solid_append, solid_cons]
  refine ⟨⟨?_, solid_paddedNumeral 2 _⟩, by decide, solid_paddedNumeral 2 _⟩
  split <;> decide

theorem solid_timestamp (t : OffsetTimestamp) : Solid t.write := by
  simp only [OffsetTimestamp.write, solid_append, solid_cons]
  exact ⟨⟨solid_date t.wallDate, by decide, solid_clock t.wallClock⟩, solid_offset t.offset⟩

/-! ## Items -/

variable {p q : Parts} {rest : List Char}

theorem take?_year (year : Int) (stop : NoDigit rest) :
    Item.year.take? p (yearText year ++ rest) = some ({ p with year }, rest) := by
  rw [Item.take?, dropBlanks_yearText, takeYear?_yearText year stop, Option.map_some]

theorem take?_exactYear {year : Int} (unsigned : 0 ≤ year ∧ year ≤ 9999) :
    Item.exactYear.take? p (yearText year ++ rest) = some ({ p with year }, rest) := by
  have value : (year.toNat : Int) = year := by omega
  rw [yearText, if_pos unsigned, Item.take?,
    takeNumber?_paddedNumeral (Nat.le_refl _) (show year.toNat < 10000 by omega),
    Option.map_some]
  dsimp only
  rw [value]

theorem take?_number (field : Field) {n : Nat} (fits : n < 100) :
    (Item.number field).take? p (paddedNumeral 2 n ++ rest) = some (p.set n field, rest) := by
  rw [Item.take?, dropBlanks_paddedNumeral, takeNumber?_paddedNumeral (by decide) fits,
    Option.map_some]

theorem take?_exactNumber (field : Field) {n : Nat} (fits : n < 100) :
    (Item.exactNumber field).take? p (paddedNumeral 2 n ++ rest) = some (p.set n field, rest) := by
  rw [Item.take?, takeNumber?_paddedNumeral (by decide) fits, Option.map_some]

theorem take?_oneOf {options : List Char} {c : Char} (listed : options.contains c = true) :
    (Item.oneOf options).take? p (c :: rest) = some (p, rest) := by
  rw [Item.take?, if_pos listed]

theorem takeFraction?_paddedNumeral {k n : Nat} (few : k + 1 ≤ 9) (fits : n < tenPow (k + 1))
    (stop : NoDigit rest) :
    takeFraction? (paddedNumeral (k + 1) n ++ rest) = some (n * tenPow (9 - (k + 1)), rest) := by
  have length := length_paddedDigits fits
  have whole : (paddedDigits (k + 1) n).take 9 = paddedDigits (k + 1) n :=
    List.take_of_length_le (by omega)
  have value : ofPlaces 9 (paddedDigits (k + 1) n) = n * tenPow (9 - (k + 1)) := by
    rw [ofPlaces, whole, ofDigits_paddedDigits, length]
  obtain ⟨d, ds, found⟩ := List.exists_cons_of_ne_nil (paddedDigits_ne_nil (k + 1) n)
  rw [takeFraction?, paddedNumeral_eq, takeAllDigits_map_digitChar (paddedDigits_lt _ n) stop]
  rw [found] at value ⊢
  dsimp only
  rw [value]

/-- What a fraction of a second may stand in front of: no digit, which would belong to it, and no
point, which would start it. -/
def FractionEnds (cs : List Char) : Prop := NoDigit cs ∧ ∀ tail, cs ≠ '.' :: tail

theorem fractionEnds_nil : FractionEnds [] := ⟨noDigit_nil, fun _ => by simp⟩

theorem fractionEnds_cons {c : Char} (digit : digit? c = none) (point : c ≠ '.')
    (cs : List Char) : FractionEnds (c :: cs) :=
  ⟨noDigit_cons digit cs, fun _ same => point (List.cons.inj same).1⟩

/-- A point and the places behind it, to whole nanoseconds. -/
theorem take?_point {k n nano : Nat} (few : k + 1 ≤ 9) (fits : n < tenPow (k + 1))
    (value : n * tenPow (9 - (k + 1)) = nano) (stop : NoDigit rest) :
    Item.fraction.take? p ('.' :: paddedNumeral (k + 1) n ++ rest) =
      some ({ p with nano }, rest) := by
  rw [List.cons_append, Item.take?, takeFraction?_paddedNumeral few fits stop, Option.map_some,
    value]

theorem take?_fraction {nano : Nat} (fits : nano < nanosPerSecond) (unset : p.nano = 0)
    (ends : FractionEnds rest) :
    Item.fraction.take? p (nanoText nano ++ rest) = some ({ p with nano }, rest) := by
  rw [nanosPerSecond] at fits
  unfold nanoText
  split
  -- nothing is written, and the item leaves the parts as they are
  · rename_i zero
    have kept : ({ p with nano } : Parts) = p := by
      rw [zero, ← unset]
    rw [kept, List.nil_append, Item.take?]
    exact ends.2
  · split
    · have milli : nano / 1000000 < 1000 := by omega
      have value : nano / 1000000 * 1000000 = nano := by omega
      exact take?_point (by decide) milli value ends.1
    · split
      · have micro : nano / 1000 < 1000000 := by omega
        have value : nano / 1000 * 1000 = nano := by omega
        exact take?_point (by decide) micro value ends.1
      · exact take?_point (Nat.le_refl 9) fits (Nat.mul_one nano) ends.1

/-! ## Offsets -/

/-- Either separator passes over the colon and stops at the minutes. -/
theorem takeOffset?_write {separator? : List Char → Option (List Char)} (o : Offset)
    (parts : ∀ n,
      separator? (':' :: (paddedNumeral 2 n ++ rest)) = some (paddedNumeral 2 n ++ rest)) :
    takeOffset? separator? (o.write ++ rest) = some (o.minutes, rest) := by
  have bound := o.minutes_mem
  have hours : o.minutes.natAbs / 60 < 100 := by omega
  have minutes : o.minutes.natAbs % 60 < 100 := by omega
  have whole : o.minutes.natAbs / 60 * 60 + o.minutes.natAbs % 60 = o.minutes.natAbs := by omega
  have below : o.minutes.natAbs % 60 < 60 := by omega
  have taken := @takeNumber?_paddedNumeral 2 1
  by_cases negative : o.minutes < 0
  · have value : -1 * (o.minutes.natAbs : Int) = o.minutes := by omega
    simp only [Offset.write, if_pos negative, List.append_assoc, List.cons_append, takeOffset?,
      takeSign?, Option.bind_eq_bind, Option.bind_some, taken (Nat.le_refl 2) hours, parts,
      taken (Nat.le_refl 2) minutes, if_pos below, whole, value]
  · have value : 1 * (o.minutes.natAbs : Int) = o.minutes := by omega
    simp only [Offset.write, if_neg negative, List.append_assoc, List.cons_append, takeOffset?,
      takeSign?, Option.bind_eq_bind, Option.bind_some, taken (Nat.le_refl 2) hours, parts,
      taken (Nat.le_refl 2) minutes, if_pos below, whole, value]

theorem skipColons?_paddedNumeral (n : Nat) (rest : List Char) :
    skipColons? (':' :: (paddedNumeral 2 n ++ rest)) = some (paddedNumeral 2 n ++ rest) := by
  obtain ⟨d, small, cs, starts⟩ := paddedNumeral_eq_cons 2 n
  have colon : digitChar d ≠ ':' := digitChar_ne small rfl
  rw [starts]
  simp [skipColons?, colon, isBlank_digitChar small]

theorem take?_offset (o : Offset) :
    Item.offset.take? p (o.write ++ rest) = some ({ p with offset := o.minutes }, rest) := by
  have solid : dropBlanks (o.write ++ rest) = o.write ++ rest := by
    refine dropBlanks_of_head ?_
    split <;> decide
  rw [Item.take?, solid, takeOffset?_write o fun n => skipColons?_paddedNumeral n rest,
    Option.map_some]

theorem take?_exactOffset (o : Offset) :
    Item.exactOffset.take? p (o.write ++ rest) = some ({ p with offset := o.minutes }, rest) := by
  have taken : takeOffset? takeColon? (o.write ++ rest) = some (o.minutes, rest) :=
    takeOffset?_write o fun _ => rfl
  have sign : ∀ c tail, o.write ++ rest = c :: tail → c = '-' ∨ c = '+' := by
    intro c tail starts
    rw [← (List.cons.inj starts).1]
    split
    · exact Or.inl rfl
    · exact Or.inr rfl
  rw [Item.take?, taken, Option.map_some]
  · intro tail starts
    exact absurd (sign _ tail starts) (by decide)
  · intro tail starts
    exact absurd (sign _ tail starts) (by decide)

/-! ## Patterns -/

theorem readParts?_cons {item : Item} {items : List Item} {cs : List Char}
    (taken : item.take? p cs = some (q, rest)) :
    readParts? p (item :: items) cs = readParts? q items rest := by
  rw [readParts?, taken, Option.bind_some]

theorem readParts?_cons_of_none {item : Item} {items : List Item} {cs : List Char}
    (stuck : item.take? p cs = none) : readParts? p (item :: items) cs = none := by
  rw [readParts?, stuck, Option.bind_none]

/-- The parts with those of a day filled in. -/
def Parts.withDate (p : Parts) (d : CivilDate) : Parts :=
  { p with year := d.year, month := d.month, day := d.day }

/-- The parts with those of a time of day filled in, as they are written. -/
def Parts.withClock (p : Parts) (c : Clock) : Parts :=
  { p with hour := c.hour, minute := c.minute, second := c.secondOfMinute, nano := c.nanoOfSecond }

theorem month_lt (d : CivilDate) : d.month < 100 := by
  have bound := d.month_mem
  omega

theorem day_lt (d : CivilDate) : d.day < 100 := by
  have bound := d.day_mem
  have longest := daysInMonth_le d.year d.month
  omega

theorem clock_lt (c : Clock) : c.hour < 100 ∧ c.minute < 100 ∧ c.secondOfMinute < 100 := by
  have hour := c.hour_lt
  have minute := c.minute_lt
  have second := c.secondOfMinute_le
  omega

theorem readParts?_date (d : CivilDate) (items : List Item) :
    readParts? p (datePattern ++ items) (d.write ++ rest) =
      readParts? (p.withDate d) items rest := by
  simp only [datePattern, CivilDate.write, List.append_assoc, List.cons_append, List.nil_append]
  rw [readParts?_cons (take?_year d.year (noDigit_cons rfl _)),
    readParts?_cons (take?_oneOf rfl), readParts?_cons (take?_number .month (month_lt d)),
    readParts?_cons (take?_oneOf rfl), readParts?_cons (take?_number .day (day_lt d))]
  rfl

theorem readParts?_clock (c : Clock) (unset : p.nano = 0) (ends : FractionEnds rest)
    (items : List Item) :
    readParts? p (secondPattern ++ items) (c.write ++ rest) =
      readParts? (p.withClock c) items rest := by
  obtain ⟨hour, minute, second⟩ := clock_lt c
  simp only [secondPattern, minutePattern, Clock.write, List.append_assoc, List.cons_append,
    List.nil_append]
  rw [readParts?_cons (take?_number .hour hour), readParts?_cons (take?_oneOf rfl),
    readParts?_cons (take?_number .minute minute), readParts?_cons (take?_oneOf rfl),
    readParts?_cons (take?_number .second second),
    readParts?_cons (take?_fraction c.nanoOfSecond_lt ?_ ends)]
  · rfl
  · exact unset

/-- The parts that the text of a timestamp names. -/
def timestampParts (t : OffsetTimestamp) : Parts :=
  { ({} : Parts).withDate t.wallDate |>.withClock t.wallClock with offset := t.offset.minutes }

/-- A sign ends a fraction. -/
theorem fractionEnds_write (o : Offset) : FractionEnds o.write := by
  refine fractionEnds_cons ?_ ?_ _
  · split <;> rfl
  · split <;> decide

theorem readParts?_offset (o : Offset) :
    readParts? p [.offset] o.write = some { p with offset := o.minutes } := by
  have taken : Item.offset.take? p (o.write ++ []) = _ := take?_offset o
  rw [List.append_nil] at taken
  rw [readParts?_cons taken, readParts?]

theorem readParts?_exactOffset (o : Offset) :
    readParts? p [.exactOffset] o.write = some { p with offset := o.minutes } := by
  have taken : Item.exactOffset.take? p (o.write ++ []) = _ := take?_exactOffset o
  rw [List.append_nil] at taken
  rw [readParts?_cons taken, readParts?]

/-- The internet format reads a timestamp whose year has four digits and no sign. -/
theorem readParts?_internet {t : OffsetTimestamp}
    (unsigned : 0 ≤ t.wallDate.year ∧ t.wallDate.year ≤ 9999) :
    readParts? {} internetPattern t.write = some (timestampParts t) := by
  obtain ⟨hour, minute, second⟩ := clock_lt t.wallClock
  simp only [internetPattern, OffsetTimestamp.write, CivilDate.write, Clock.write,
    List.append_assoc, List.cons_append]
  rw [readParts?_cons (take?_exactYear unsigned), readParts?_cons (take?_oneOf rfl),
    readParts?_cons (take?_exactNumber .month (month_lt _)), readParts?_cons (take?_oneOf rfl),
    readParts?_cons (take?_exactNumber .day (day_lt _)), readParts?_cons (take?_oneOf rfl),
    readParts?_cons (take?_exactNumber .hour hour), readParts?_cons (take?_oneOf rfl),
    readParts?_cons (take?_exactNumber .minute minute), readParts?_cons (take?_oneOf rfl),
    readParts?_cons (take?_exactNumber .second second),
    readParts?_cons (take?_fraction t.wallClock.nanoOfSecond_lt ?_ (fractionEnds_write t.offset)),
    readParts?_exactOffset]
  · rfl
  · rfl

/-- A year with a sign is none of the internet format. -/
theorem readParts?_internet_of_signed {t : OffsetTimestamp}
    (signed : ¬ (0 ≤ t.wallDate.year ∧ t.wallDate.year ≤ 9999)) :
    readParts? {} internetPattern t.write = none := by
  refine readParts?_cons_of_none ?_
  simp only [OffsetTimestamp.write, CivilDate.write, yearText, if_neg signed, List.cons_append]
  split <;> rfl

/-- The letter T parts date and time where the pattern expects blanks or a number. -/
theorem readParts?_blanks_of_letter (items : List Item) :
    readParts? p (.blanks :: secondPattern ++ items) ('T' :: rest) = none := by
  have skipped : Item.blanks.take? p ('T' :: rest) = some (p, 'T' :: rest) := rfl
  rw [List.cons_append, readParts?_cons skipped]
  exact readParts?_cons_of_none rfl

theorem readParts?_letter (t : OffsetTimestamp) :
    readParts? {} (datePattern ++ .oneOf ['T'] :: secondPattern ++ [.offset]) t.write =
      some (timestampParts t) := by
  simp only [OffsetTimestamp.write, List.append_assoc, List.cons_append]
  rw [readParts?_date, readParts?_cons (take?_oneOf rfl),
    readParts?_clock t.wallClock rfl (fractionEnds_write t.offset), readParts?_offset]
  rfl

/-! ## Whole texts -/

theorem readFirst?_of_some {α : Type} {make? : Parts → Option α} {items : List Item}
    {patterns : List (List Item)} {cs : List Char} {x : α}
    (read : readParts? {} items cs = some p) (made : make? p = some x) :
    readFirst? make? (items :: patterns) cs = some x := by
  simp [readFirst?, read, made]

theorem readFirst?_of_none {α : Type} {make? : Parts → Option α} {items : List Item}
    {patterns : List (List Item)} {cs : List Char} (stuck : readParts? {} items cs = none) :
    readFirst? make? (items :: patterns) cs = readFirst? make? patterns cs := by
  simp [readFirst?, stuck]

theorem readClock?_write (c : Clock) : readClock? c.write = some c := by
  have read : readParts? {} (secondPattern ++ []) (c.write ++ []) =
      some (({} : Parts).withClock c) :=
    readParts?_clock c rfl fractionEnds_nil []
  rw [List.append_nil, List.append_nil] at read
  exact readFirst?_of_some read c.make?_self

theorem readDate?_write (d : Date) : readDate? d.write = some d := by
  have read : readParts? {} (datePattern ++ []) (d.write ++ []) =
      some (({} : Parts).withDate d.toCivilDate) :=
    readParts?_date d.toCivilDate []
  rw [List.append_nil, List.append_nil] at read
  have first : readFirst? Parts.date? [datePattern] d.write = some d :=
    readFirst?_of_some read d.make?_self
  rw [readDate?, first, Option.some_or]

theorem local?_withDate_withClock (d : Date) (c : Clock) :
    ((({} : Parts).withDate d.toCivilDate).withClock c).local? = some ⟨d, c⟩ := by
  have date : ((({} : Parts).withDate d.toCivilDate).withClock c).date? = some d := d.make?_self
  have clock : ((({} : Parts).withDate d.toCivilDate).withClock c).clock? = some c := c.make?_self
  simp [Parts.local?, date, clock]

theorem readLocal?_write (t : LocalTimestamp) : readLocal? t.write = some t := by
  have read : readParts? {} (datePattern ++ .oneOf ['T'] :: (secondPattern ++ []))
      (t.date.write ++ 'T' :: (t.clock.write ++ [])) =
        some ((({} : Parts).withDate t.date.toCivilDate).withClock t.clock) := by
    rw [readParts?_date, readParts?_cons (take?_oneOf rfl),
      readParts?_clock t.clock rfl fractionEnds_nil, readParts?]
  rw [List.append_nil, List.append_nil] at read
  have first : readFirst? Parts.local? localPatterns t.write = some t :=
    readFirst?_of_some read (local?_withDate_withClock t.date t.clock)
  rw [readLocal?, first, Option.some_or]

theorem offset?_timestampParts {t : OffsetTimestamp} {wall : Date}
    (shown : t.wallDate = wall.toCivilDate) : (timestampParts t).offset? = some t := by
  have moment : (timestampParts t).local? = some ⟨wall, t.wallClock⟩ := by
    rw [timestampParts, shown]
    exact local?_withDate_withClock wall t.wallClock
  have offset : Offset.make? (timestampParts t).offset = some t.offset := t.offset.make?_self
  simp [Parts.offset?, moment, offset, OffsetTimestamp.ofWall?_wall shown]

/-- A timestamp is read back if its date on the wall, which is what is written, is a supported
one. -/
theorem readOffset?_write {t : OffsetTimestamp} {wall : Date}
    (shown : t.wallDate = wall.toCivilDate) : readOffset? t.write = some t := by
  have made := offset?_timestampParts shown
  by_cases unsigned : 0 ≤ t.wallDate.year ∧ t.wallDate.year ≤ 9999
  · have internet : readInternet? t.write = some t :=
      readFirst?_of_some (readParts?_internet unsigned) made
    rw [readOffset?, internet, Option.some_or]
  -- the internet format stops at the sign, and the first lenient pattern at the letter T
  · have internet : readInternet? t.write = none :=
      readFirst?_of_none (readParts?_internet_of_signed unsigned)
    have blanks : readParts? {} (datePattern ++ .blanks :: secondPattern ++ [.offset]) t.write =
        none := by
      simp only [OffsetTimestamp.write, List.append_assoc, List.cons_append]
      rw [readParts?_date]
      exact readParts?_blanks_of_letter [.offset]
    have lenient : readFirst? Parts.offset? offsetPatterns t.write = some t :=
      (readFirst?_of_none blanks).trans (readFirst?_of_some (readParts?_letter t) made)
    rw [readOffset?, internet, lenient, Option.none_or, Option.some_or]

end RowQuery.Calendar
