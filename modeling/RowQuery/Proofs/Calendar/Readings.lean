import Mathlib.Data.List.DropRight
import Mathlib.Data.List.Forall2
import RowQuery.Proofs.Calendar.Pattern
import RowQuery.Value.Reading

/-!
# One text, read as a date, a local and an offset timestamp

The three readers try many patterns, each reader its own and in its own order. They agree all the
same, because no text belongs to two patterns with different meanings: of the patterns for local
timestamps and dates on the one side and those that have an offset on the other, at most one reads
a text, and a date alone is no local timestamp by another pattern. Two patterns are told apart where
they part: up to there what one of them takes the other takes too, and leaves the same rest, and
then one of them has to end where the other still wants a character, or wants a letter where the
other wants a digit.
-/
namespace RowQuery.Calendar
open Text

/-! ## Patterns that share no text -/

/-- No text is read by both patterns. -/
def Apart (a b : List Item) : Prop :=
  ∀ p cs, readParts? p a cs = none ∨ readParts? p b cs = none

/-- Whatever the first item takes, the second takes too, for the same parts and with the same
rest. -/
def Item.Refines (i j : Item) : Prop :=
  ∀ p cs q rest, i.take? p cs = some (q, rest) → j.take? p cs = some (q, rest)

namespace Apart
variable {a b : List Item}

theorem symm (apart : Apart a b) : Apart b a := fun p cs => (apart p cs).symm

/-- A pattern that still wants a character is apart from the one that wants none. -/
theorem of_nil (wants : ∀ p, readParts? p b [] = none) : Apart b [] := by
  intro p cs
  cases cs with
  | nil => exact Or.inl (wants p)
  | cons c cs => exact Or.inr rfl

theorem cons_of_refines {i j : Item} (refines : i.Refines j) (apart : Apart a b) :
    Apart (i :: a) (j :: b) := by
  intro p cs
  cases taken : i.take? p cs with
  | none => exact Or.inl (readParts?_cons_of_none taken)
  | some step =>
    rw [readParts?_cons taken, readParts?_cons (refines p cs _ _ taken)]
    exact apart step.1 step.2

/-- Patterns whose fronts take the same are as far apart as what comes after. -/
theorem append_of_refines {front front' : List Item}
    (refines : List.Forall₂ Item.Refines front front') (apart : Apart a b) :
    Apart (front ++ a) (front' ++ b) := by
  induction refines with
  | nil => exact apart
  | cons head _ ih => exact cons_of_refines head ih

/-- A pattern that goes on where the other one ends is apart from it. -/
theorem of_longer {front more whole : List Item} (refines : List.Forall₂ Item.Refines front whole)
    (wants : ∀ p, readParts? p more [] = none) : Apart (front ++ more) whole := by
  have apart := append_of_refines refines (of_nil wants)
  rwa [List.append_nil] at apart

end Apart

/-! ## Items that take what others take -/

/-- Where more digits are wanted, no more of them are taken. -/
theorem takeNumber?_of_le {least fewer most n : Nat} (le : fewer ≤ least) {cs rest : List Char}
    (taken : takeNumber? least most cs = some (n, rest)) :
    takeNumber? fewer most cs = some (n, rest) := by
  simp only [takeNumber?] at taken ⊢
  split at taken
  · cases taken
  · rwa [if_neg (by omega)]

/-- A number that is wanted begins with a digit. -/
theorem exists_digit_of_takeNumber? {least most n : Nat} (wanted : 0 < least) {cs rest : List Char}
    (taken : takeNumber? least most cs = some (n, rest)) :
    ∃ d < 10, ∃ tail, cs = digitChar d :: tail := by
  simp only [takeNumber?] at taken
  split at taken
  · cases taken
  · obtain ⟨parts, small, -⟩ := takeDigits_eq (rfl : takeDigits most cs = (_, _))
    have some_digit : (takeDigits most cs).1 ≠ [] := List.ne_nil_of_length_pos (by omega)
    obtain ⟨d, digit, tail, starts⟩ := map_digitChar_eq_cons some_digit small
    rw [starts, List.cons_append] at parts
    exact ⟨d, digit, _, parts⟩

namespace Item

theorem Refines.refl (i : Item) : i.Refines i := fun _ _ _ _ taken => taken

/-- Four digits are a year without a sign, and no blanks are skipped in front of them. -/
theorem exactYear_refines : exactYear.Refines year := by
  intro p cs q rest taken
  rw [take?] at taken
  obtain ⟨⟨n, tail⟩, digits, same⟩ := Option.map_eq_some_iff.1 taken
  have fewer : takeNumber? 1 4 cs = some (n, tail) := takeNumber?_of_le (by decide) digits
  obtain ⟨d, small, behind, rfl⟩ := exists_digit_of_takeNumber? (by decide) digits
  rw [take?, dropBlanks_of_head (isBlank_digitChar small), takeYear?, fewer]
  · exact congrArg some same
  · intro _ minus
    exact digitChar_ne small rfl (List.cons.inj minus).1
  · intro _ plus
    exact digitChar_ne small rfl (List.cons.inj plus).1

theorem exactNumber_refines (field : Field) : (exactNumber field).Refines (number field) := by
  intro p cs q rest taken
  rw [take?] at taken
  obtain ⟨⟨n, tail⟩, digits, same⟩ := Option.map_eq_some_iff.1 taken
  have fewer : takeNumber? 1 2 cs = some (n, tail) := takeNumber?_of_le (by decide) digits
  obtain ⟨d, small, behind, rfl⟩ := exists_digit_of_takeNumber? (by decide) digits
  rw [take?, dropBlanks_of_head (isBlank_digitChar small), fewer]
  exact congrArg some same

end Item

/-- A pattern shares its front with itself. -/
theorem forall₂_refines_self (items : List Item) : List.Forall₂ Item.Refines items items :=
  List.forall₂_same.2 fun i _ => Item.Refines.refl i

/-! ## What parts date and time -/

/-- Blanks in front of a number are skipped anyway. -/
theorem take?_number_dropBlanks (p : Parts) (field : Field) (cs : List Char) :
    (Item.number field).take? p (dropBlanks cs) = (Item.number field).take? p cs := by
  rw [Item.take?, Item.take?, dropBlanks, dropBlanks, List.dropWhile_idempotent]

namespace Apart
variable {a b : List Item} {options others : List Char} {field : Field}

theorem cons_oneOf (apart : Apart a b) : Apart (.oneOf options :: a) (.oneOf others :: b) := by
  intro p cs
  cases cs with
  | nil => exact Or.inl rfl
  | cons c cs =>
    by_cases left : options.contains c
    · by_cases right : others.contains c
      · rw [readParts?_cons (take?_oneOf left), readParts?_cons (take?_oneOf right)]
        exact apart p cs
      · refine Or.inr (readParts?_cons_of_none ?_)
        rw [Item.take?, if_neg right]
    · refine Or.inl (readParts?_cons_of_none ?_)
      rw [Item.take?, if_neg left]

/-- A separator of one character and one of blanks read the same text only if that character is a
blank, and then both leave the number behind it. -/
theorem cons_oneOf_blanks (letters : ∀ c ∈ options, digit? c = none)
    (apart : Apart a (.number field :: b)) :
    Apart (.oneOf options :: a) (.blanks :: .number field :: b) := by
  intro p cs
  cases cs with
  | nil => exact Or.inl rfl
  | cons c cs =>
    by_cases listed : options.contains c
    · have skipped : Item.blanks.take? p (c :: cs) = some (p, dropBlanks (c :: cs)) := rfl
      rw [readParts?_cons (take?_oneOf listed), readParts?_cons skipped]
      cases blank : isBlank c with
      | true =>
        -- both have passed the blank; the further ones that the run has are left to the number
        have same : readParts? p (.number field :: b) (dropBlanks (c :: cs)) =
            readParts? p (.number field :: b) cs := by
          have dropped : dropBlanks (c :: cs) = dropBlanks cs := by simp [dropBlanks, blank]
          rw [dropped, readParts?, readParts?, take?_number_dropBlanks]
        rw [same]
        exact apart p cs
      | false =>
        -- the run is empty, and the number is looked for where the letter stands
        refine Or.inr (readParts?_cons_of_none ?_)
        have other := letters c (List.contains_iff_mem.1 listed)
        rw [dropBlanks_of_head blank, Item.take?, dropBlanks_of_head blank, takeNumber?,
          takeDigits_of_noDigit (noDigit_cons other cs)]
        rfl
    · refine Or.inl (readParts?_cons_of_none ?_)
      rw [Item.take?, if_neg listed]

end Apart

/-! ## The patterns of the three readers -/

/-- What parts date and time in the lenient patterns. -/
def separators : List Item := [.oneOf ['T'], .blanks]

/-- The date of the internet format. -/
def exactDatePattern : List Item :=
  [.exactYear, .oneOf ['-'], .exactNumber .month, .oneOf ['-'], .exactNumber .day]

/-- The time of day of the internet format up to its minute. -/
def exactMinutePattern : List Item := [.exactNumber .hour, .oneOf [':'], .exactNumber .minute]

/-- The time of day of the internet format. -/
def exactSecondPattern : List Item :=
  exactMinutePattern ++ [.oneOf [':'], .exactNumber .second, .fraction]

theorem exactDatePattern_refines : List.Forall₂ Item.Refines exactDatePattern datePattern :=
  .cons Item.exactYear_refines <| .cons (.refl _) <| .cons (Item.exactNumber_refines _) <|
    .cons (.refl _) <| .cons (Item.exactNumber_refines _) .nil

theorem exactMinutePattern_refines :
    List.Forall₂ Item.Refines exactMinutePattern minutePattern :=
  .cons (Item.exactNumber_refines _) <| .cons (.refl _) <| .cons (Item.exactNumber_refines _) .nil

theorem exactSecondPattern_refines :
    List.Forall₂ Item.Refines exactSecondPattern secondPattern :=
  List.rel_append exactMinutePattern_refines <|
    .cons (.refl _) <| .cons (Item.exactNumber_refines _) <| .cons (.refl _) .nil

theorem exists_of_mem_localPatterns {items : List Item} (listed : items ∈ localPatterns) :
    ∃ separator ∈ separators, ∃ clock ∈ clockPatterns,
      items = datePattern ++ separator :: clock := by
  simp only [localPatterns, List.mem_cons, List.not_mem_nil, or_false] at listed
  rcases listed with rfl | rfl | rfl | rfl
  · exact ⟨.oneOf ['T'], by decide, secondPattern, by decide, rfl⟩
  · exact ⟨.blanks, by decide, secondPattern, by decide, rfl⟩
  · exact ⟨.oneOf ['T'], by decide, minutePattern, by decide, rfl⟩
  · exact ⟨.blanks, by decide, minutePattern, by decide, rfl⟩

section
variable {clock : List Item} (listed : clock ∈ clockPatterns)
include listed

/-- A time of day to the second that an offset follows is no time of day alone. -/
theorem clock_apart {minutes seconds : List Item} {zone : Item}
    (toMinute : List.Forall₂ Item.Refines minutes minutePattern)
    (toSecond : List.Forall₂ Item.Refines (minutes ++ seconds) secondPattern)
    (goesOn : ∀ p, readParts? p (seconds ++ [zone]) [] = none)
    (zoned : ∀ p, readParts? p [zone] [] = none) :
    Apart (minutes ++ seconds ++ [zone]) clock := by
  simp only [clockPatterns, List.mem_cons, List.not_mem_nil, or_false] at listed
  rcases listed with rfl | rfl
  · exact .of_longer toSecond zoned
  · rw [List.append_assoc]
    exact .of_longer toMinute goesOn

theorem offsetClock_apart : Apart (secondPattern ++ [.offset]) clock :=
  clock_apart listed (forall₂_refines_self minutePattern) (forall₂_refines_self secondPattern)
    (fun _ => rfl) fun _ => rfl

theorem exactClock_apart : Apart (exactSecondPattern ++ [.exactOffset]) clock :=
  clock_apart listed exactMinutePattern_refines exactSecondPattern_refines (fun _ => rfl)
    fun _ => rfl

variable {separator : Item} (parting : separator ∈ separators)
include parting

theorem oneOf_clock_apart {options : List Char} (letters : ∀ c ∈ options, digit? c = none)
    {after : List Item} (apart : Apart after clock) :
    Apart (.oneOf options :: after) (separator :: clock) := by
  simp only [separators, List.mem_cons, List.not_mem_nil, or_false] at parting
  rcases parting with rfl | rfl
  · exact .cons_oneOf apart
  · simp only [clockPatterns, List.mem_cons, List.not_mem_nil, or_false] at listed
    rcases listed with rfl | rfl
    · exact .cons_oneOf_blanks letters apart
    · exact .cons_oneOf_blanks letters apart

theorem blanks_clock_apart :
    Apart (.blanks :: (secondPattern ++ [.offset])) (separator :: clock) := by
  have apart := offsetClock_apart listed
  simp only [separators, List.mem_cons, List.not_mem_nil, or_false] at parting
  rcases parting with rfl | rfl
  · exact .symm (.cons_oneOf_blanks (List.forall_mem_singleton.2 rfl) apart.symm)
  · exact .cons_of_refines (.refl _) apart

end

/-- A pattern that goes on after the date as no local timestamp does. -/
theorem apart_of_behind {date behind : List Item}
    (refines : List.Forall₂ Item.Refines date datePattern)
    (wants : ∀ p, readParts? p behind [] = none)
    (apart : ∀ separator ∈ separators, ∀ clock ∈ clockPatterns, Apart behind (separator :: clock))
    {items : List Item} (listed : items ∈ datePattern :: localPatterns) :
    Apart (date ++ behind) items := by
  rcases List.mem_cons.1 listed with rfl | listed
  · exact .of_longer refines wants
  · obtain ⟨separator, parting, clock, told, rfl⟩ := exists_of_mem_localPatterns listed
    exact .append_of_refines refines (apart separator parting clock told)

/-- No text with an offset is a local timestamp or a date by its pattern. -/
theorem timed_apart {timed : List Item} (known : timed ∈ internetPattern :: offsetPatterns)
    {items : List Item} (listed : items ∈ datePattern :: localPatterns) : Apart timed items := by
  have internet : ∀ separator ∈ separators, ∀ clock ∈ clockPatterns,
      Apart (.oneOf ['T', 't', ' '] :: (exactSecondPattern ++ [.exactOffset]))
        (separator :: clock) :=
    fun _ parting _ told =>
      oneOf_clock_apart told parting (by simp [digit?]) (exactClock_apart told)
  have letter : ∀ separator ∈ separators, ∀ clock ∈ clockPatterns,
      Apart (.oneOf ['T'] :: (secondPattern ++ [.offset])) (separator :: clock) :=
    fun _ parting _ told =>
      oneOf_clock_apart told parting (List.forall_mem_singleton.2 rfl) (offsetClock_apart told)
  have blanks : ∀ separator ∈ separators, ∀ clock ∈ clockPatterns,
      Apart (.blanks :: (secondPattern ++ [.offset])) (separator :: clock) :=
    fun _ parting _ told => blanks_clock_apart told parting
  have itself := forall₂_refines_self datePattern
  simp only [offsetPatterns, List.mem_cons, List.not_mem_nil, or_false] at known
  rcases known with rfl | rfl | rfl
  · exact apart_of_behind exactDatePattern_refines (fun _ => rfl) internet listed
  · exact apart_of_behind itself (fun _ => rfl) blanks listed
  · exact apart_of_behind itself (fun _ => rfl) letter listed

/-- A date alone is no date with a time of day. -/
theorem local_apart {items : List Item} (listed : items ∈ localPatterns) :
    Apart items datePattern := by
  obtain ⟨separator, parting, clock, told, rfl⟩ := exists_of_mem_localPatterns listed
  refine .of_longer (forall₂_refines_self datePattern) fun p => ?_
  simp only [separators, clockPatterns, List.mem_cons, List.not_mem_nil, or_false] at parting told
  rcases parting with rfl | rfl <;> rcases told with rfl | rfl <;> rfl

/-! ## The readers -/

section
variable {α : Type} {make? : Parts → Option α} {patterns : List (List Item)} {cs : List Char}

theorem exists_of_readFirst? {x : α} (read : readFirst? make? patterns cs = some x) :
    ∃ items ∈ patterns, ∃ p, readParts? {} items cs = some p ∧ make? p = some x := by
  obtain ⟨items, listed, found⟩ := List.exists_of_findSome?_eq_some read
  obtain ⟨p, parts, made⟩ := Option.bind_eq_some_iff.1 found
  exact ⟨items, listed, p, parts, made⟩

/-- Patterns that are all apart from one that reads a text give nothing for it. -/
theorem readFirst?_of_apart {items : List Item} {p : Parts}
    (parts : readParts? {} items cs = some p) (apart : ∀ other ∈ patterns, Apart other items) :
    readFirst? make? patterns cs = none := by
  refine List.findSome?_eq_none_iff.2 fun other listed => ?_
  have unread : readParts? {} other cs = none :=
    (apart other listed {} cs).resolve_right (by rw [parts]; nofun)
  rw [unread, Option.bind_none]

end

/-- A date says nothing about the time of day. -/
theorem clock?_of_take? {item : Item} (named : item ∈ datePattern) {p q : Parts}
    {cs rest : List Char} (taken : item.take? p cs = some (q, rest)) : q.clock? = p.clock? := by
  cases item with
  | year =>
    obtain ⟨_, -, same⟩ := Option.map_eq_some_iff.1 taken
    cases same
    rfl
  | number field =>
    obtain ⟨_, -, same⟩ := Option.map_eq_some_iff.1 taken
    cases same
    cases field with
    | month | day => rfl
    | hour | minute | second => exact absurd named (by decide)
  | oneOf options =>
    cases cs with
    | nil => cases taken
    | cons c cs =>
      obtain ⟨-, same⟩ := Option.ite_none_right_eq_some.1 taken
      cases same
      rfl
  | _ => simp [datePattern] at named

theorem clock?_of_readParts? {items : List Item} (named : ∀ item ∈ items, item ∈ datePattern)
    {p q : Parts} {cs : List Char} (parts : readParts? p items cs = some q) :
    q.clock? = p.clock? := by
  induction items generalizing p cs with
  | nil =>
    cases cs with
    | nil => cases parts; rfl
    | cons c cs => cases parts
  | cons item items ih =>
    obtain ⟨⟨next, rest⟩, taken, parts⟩ := Option.bind_eq_some_iff.1 parts
    obtain ⟨head, tail⟩ := List.forall_mem_cons.1 named
    exact (ih tail parts).trans (clock?_of_take? head taken)

/-- The date of a text is the one of its local timestamp. -/
theorem readDate?_eq (cs : List Char) : readDate? cs = (readLocal? cs).map (·.date) := by
  cases alone : readFirst? Parts.date? [datePattern] cs with
  | none => rw [readDate?, alone, Option.none_or]
  | some d =>
    obtain ⟨items, listed, p, parts, made⟩ := exists_of_readFirst? alone
    obtain rfl := List.mem_singleton.1 listed
    have timeless : readFirst? Parts.local? localPatterns cs = none :=
      readFirst?_of_apart parts fun _ => local_apart
    have midnight : p.clock? = some default := clock?_of_readParts? (fun _ => id) parts
    have whole : readFirst? Parts.local? [datePattern] cs = some ⟨d, default⟩ :=
      readFirst?_of_some parts (by simp [Parts.local?, made, midnight])
    rw [readDate?, alone, readLocal?, timeless, whole]
    rfl

/-- A local timestamp that no internet timestamp gave is in universal time. -/
theorem readOffset?_of_parts {items : List Item} (listed : items ∈ datePattern :: localPatterns)
    {cs : List Char} {p : Parts} (parts : readParts? {} items cs = some p) :
    readOffset? cs = (readLocal? cs).map fun t => ⟨t, .utc⟩ := by
  have apart {timed : List Item} (known : timed ∈ internetPattern :: offsetPatterns) :
      Apart timed items := timed_apart known listed
  have internet : readInternet? cs = none := readFirst?_of_apart parts fun timed known =>
    apart (List.mem_cons.2 (Or.inl (List.mem_singleton.1 known)))
  have lenient : readFirst? Parts.offset? offsetPatterns cs = none :=
    readFirst?_of_apart parts fun timed known => apart (List.mem_cons_of_mem _ known)
  rw [readOffset?, internet, lenient, Option.none_or, Option.none_or]

/-- The wall of an internet timestamp is read only along with its moment. -/
theorem exists_of_readInternetWall? {cs : List Char} {t : LocalTimestamp}
    (read : readInternetWall? cs = some t) : ∃ o, readInternet? cs = some o ∧ o.Shows t := by
  obtain ⟨items, listed, p, parts, made⟩ := exists_of_readFirst? read
  obtain rfl := List.mem_singleton.1 listed
  obtain ⟨o, moment, wall⟩ := Option.bind_eq_some_iff.1 made
  refine ⟨o, readFirst?_of_some parts moment, ?_⟩
  obtain ⟨t', wall', placed⟩ := Option.bind_eq_some_iff.1 moment
  obtain ⟨offset, -, shifted⟩ := Option.bind_eq_some_iff.1 placed
  obtain rfl : t' = t := Option.some.inj (wall'.symm.trans wall)
  exact OffsetTimestamp.shows_of_ofWall? shifted

theorem exists_readOffset?_of_readLocal? {cs : List Char} {t : LocalTimestamp}
    (read : readLocal? cs = some t) : ∃ o, readOffset? cs = some o ∧ o.Shows t := by
  have universal {patterns : List (List Item)} (sub : patterns ⊆ datePattern :: localPatterns)
      (found : readFirst? Parts.local? patterns cs = some t) :
      ∃ o, readOffset? cs = some o ∧ o.Shows t := by
    obtain ⟨items, listed, p, parts, -⟩ := exists_of_readFirst? found
    refine ⟨⟨t, .utc⟩, ?_, OffsetTimestamp.shows_utc t⟩
    rw [readOffset?_of_parts (sub listed) parts, read, Option.map_some]
  rw [readLocal?] at read
  rcases Option.or_eq_some_iff.1 read with timed | ⟨-, rest⟩
  · exact universal (List.subset_cons_self _ _) timed
  · rcases Option.or_eq_some_iff.1 rest with date | ⟨-, internet⟩
    · exact universal (by simp) date
    · obtain ⟨o, moment, shown⟩ := exists_of_readInternetWall? internet
      exact ⟨o, by rw [readOffset?, moment, Option.some_or], shown⟩

end RowQuery.Calendar

namespace RowQuery
open Text Calendar

/-- The readings of one text agree. It is a date exactly if it is a local timestamp, and then it is
the date of that timestamp. If it is a local timestamp it is an offset timestamp too, and the one
that it is shows the local timestamp on the wall in its own offset. -/
theorem parseTemporal_readings (raw : String) :
    (∀ d : Date, parseTemporal raw .date = .ok d ↔
      ∃ t : LocalTimestamp, parseTemporal raw .localTimestamp = .ok t ∧ t.date = d) ∧
    ∀ t : LocalTimestamp, parseTemporal raw .localTimestamp = .ok t →
      (∃ o : OffsetTimestamp, parseTemporal raw .offsetTimestamp = .ok o) ∧
      ∀ o : OffsetTimestamp, parseTemporal raw .offsetTimestamp = .ok o →
        o.wallDate = t.date.toCivilDate ∧ o.wallClock = t.clock := by
  have date {d : Date} :
      parseTemporal raw .date = .ok d ↔ readDate? (trimChars raw.toList) = some d :=
    parseTemporal_success rfl
  have wall {t : LocalTimestamp} :
      parseTemporal raw .localTimestamp = .ok t ↔ readLocal? (trimChars raw.toList) = some t :=
    parseTemporal_success rfl
  have moment {o : OffsetTimestamp} :
      parseTemporal raw .offsetTimestamp = .ok o ↔ readOffset? (trimChars raw.toList) = some o :=
    parseTemporal_success rfl
  refine ⟨fun d => ?_, fun t read => ?_⟩
  · rw [date, readDate?_eq, Option.map_eq_some_iff]
    exact exists_congr fun t => and_congr_left' wall.symm
  · obtain ⟨o, found, shown⟩ := exists_readOffset?_of_readLocal? (wall.1 read)
    refine ⟨⟨o, moment.2 found⟩, fun other read => ?_⟩
    have same := (moment.1 read).symm.trans found
    exact Option.some.inj same ▸ shown

/-- A late evening west of Greenwich. -/
def lateEvening : LocalTimestamp where
  date := ⟨⟨2022, 6, 1, by decide, by decide⟩, by decide⟩
  clock := ⟨84600, 500000000, by decide, by decide, by decide⟩

/-- Its moment, which falls on the next day of universal time. -/
def lateEveningMoment : OffsetTimestamp where
  instant :=
    { date := ⟨⟨2022, 6, 2, by decide, by decide⟩, by decide⟩
      clock := ⟨16200, 500000000, by decide, by decide, by decide⟩ }
  offset := ⟨-300, by decide⟩

/-- The date of a text is the day on the wall and not that of the moment. -/
theorem lateEvening_readings :
    parseTemporal " 2022-06-01t23:30:00.5-05:00 " .localTimestamp = .ok lateEvening ∧
      parseTemporal " 2022-06-01t23:30:00.5-05:00 " .offsetTimestamp = .ok lateEveningMoment ∧
      parseTemporal " 2022-06-01t23:30:00.5-05:00 " .date = .ok lateEvening.date ∧
      lateEveningMoment.wallDate = lateEvening.date.toCivilDate ∧
      lateEveningMoment.wallClock = lateEvening.clock := by
  have wall : parseTemporal " 2022-06-01t23:30:00.5-05:00 " .localTimestamp = .ok lateEvening := by
    decide
  have moment : parseTemporal " 2022-06-01t23:30:00.5-05:00 " .offsetTimestamp =
      .ok lateEveningMoment := by
    decide
  obtain ⟨dates, moments⟩ := parseTemporal_readings " 2022-06-01t23:30:00.5-05:00 "
  exact ⟨wall, moment, (dates lateEvening.date).2 ⟨lateEvening, wall, rfl⟩,
    (moments lateEvening wall).2 lateEveningMoment moment⟩

end RowQuery
