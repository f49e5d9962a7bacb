import Mathlib.Algebra.Order.BigOperators.Group.List
import Mathlib.Algebra.Order.Ring.Int
import RowQuery.Calendar.Duration
import RowQuery.Proofs.Number.Integer

/-!
# The fields of durations

What stands behind the sign in front of a duration is `d` for whole days, or `[d.]h:m[:s[.f]]`. It
is given here as data: fields of digits, with a sign or none in front of each, which have a text and
a number of nanoseconds. Reading a text finds the fields that it spells and adds up their parts.

Parts are added one after another, and each partial sum has to be a duration. Since a clock only
adds to the days, this refuses nothing that the whole would not be refused for, once the days are in
range themselves.
-/
namespace RowQuery.Duration
open Text
open Integer (Literal)

/-! ## Fields -/

/-- Seconds, with the digits of a fraction or without. -/
structure Seconds where
  whole : Literal
  fraction : Option DigitRun
  deriving DecidableEq

/-- What stands behind the sign in front: `d`, or `[d.]h:m[:s[.f]]`. -/
inductive Body where
  | days (count : Literal)
  | clock (count : Option Literal) (hours minutes : Literal) (seconds : Option Seconds)
  deriving DecidableEq

/-- Hours, with days in front of them or without. -/
def headText (hours : Literal) : Option Literal → List Char
  | none => hours.text
  | some count => count.text ++ '.' :: hours.text

def Seconds.text (s : Seconds) : List Char :=
  match s.fraction with
  | none => s.whole.text
  | some fraction => s.whole.text ++ '.' :: fraction.text

/-- Minutes, with seconds behind them or without. -/
def clockText (minutes : Literal) : Option Seconds → List Char
  | none => minutes.text
  | some seconds => minutes.text ++ ':' :: seconds.text

/-- The nanoseconds of a fraction of a second: its first nine digits, with zeros for missing
ones. -/
def fractionNanos (fraction : DigitRun) : Nat :=
  ofDigits ((fraction.digits ++ List.replicate 9 0).take 9)

namespace Body

def text : Body → List Char
  | days count => count.text
  | clock count hours minutes seconds => headText hours count ++ ':' :: clockText minutes seconds

/-- The field of days, if there is one. -/
def count? : Body → Option Literal
  | days count => some count
  | clock count _ _ _ => count

/-- The fields that hold integers, in their order. -/
def fields : Body → List Literal
  | days count => [count]
  | clock count hours minutes seconds =>
    count.toList ++ [hours, minutes] ++ seconds.toList.map Seconds.whole

/-- The field at the front. -/
def lead : Body → Literal
  | days count => count
  | clock count hours _ _ => count.getD hours

/-- Every field fits 64 bits. -/
def Fits (b : Body) : Prop := ∀ field ∈ b.fields, field.Fits 63

/-- Hours, minutes and seconds are those of a clock. -/
def Timely : Body → Prop
  | days _ => True
  | clock _ hours minutes seconds =>
    (0 ≤ hours.value ∧ hours.value < 24) ∧ (0 ≤ minutes.value ∧ minutes.value < 60) ∧
      ∀ s ∈ seconds, 0 ≤ s.whole.value ∧ s.whole.value < 60

/-- No field has a sign of its own. -/
def Unsigned (b : Body) : Prop := ∀ field ∈ b.fields, field.sign = .absent

instance (b : Body) : Decidable b.Fits :=
  inferInstanceAs (Decidable (∀ field ∈ b.fields, field.Fits 63))

instance : (b : Body) → Decidable b.Timely
  | days _ => .isTrue trivial
  | clock _ _ _ _ => inferInstanceAs (Decidable (_ ∧ _ ∧ _))

instance (b : Body) : Decidable b.Unsigned :=
  inferInstanceAs (Decidable (∀ field ∈ b.fields, field.sign = .absent))

/-- The days in nanoseconds. -/
def start (b : Body) : Int := b.count?.elim 0 Literal.value * nanosPerDay

/-- What a clock adds to the days, part by part, in nanoseconds. -/
def clockParts : Body → List Int
  | days _ => []
  | clock _ hours minutes seconds =>
    [hours.value * 3600000000000, minutes.value * 60000000000,
      seconds.elim 0 (·.whole.value) * 1000000000,
      ((seconds.bind Seconds.fraction).elim 0 fractionNanos : Nat)]

/-- Days, hours, minutes, seconds and the fraction of a second, each in nanoseconds. -/
def parts (b : Body) : List Int := b.start :: b.clockParts

def nanos (b : Body) : Int := b.parts.sum

end Body

/-! ## Splitting -/

theorem splitAt?_of_not_mem {c : Char} {cs : List Char} (absent : c ∉ cs) :
    splitAt? c cs = none := by
  have kept : ∀ x ∈ cs, (x != c) = true := by
    intro x member
    exact bne_iff_ne.2 fun same => absent (same ▸ member)
  have nothing : cs.dropWhile (· != c) = [] := by
    have dropped : (cs ++ []).dropWhile (· != c) = [] := List.dropWhile_append_of_pos kept
    rwa [List.append_nil] at dropped
  rw [splitAt?, nothing]

theorem splitAt?_append {c : Char} {before : List Char} (absent : c ∉ before)
    (after : List Char) : splitAt? c (before ++ c :: after) = some (before, after) := by
  have kept : ∀ x ∈ before, (x != c) = true := by
    intro x member
    exact bne_iff_ne.2 fun same => absent (same ▸ member)
  have found : (c != c) = false := bne_self_eq_false c
  rw [splitAt?, List.dropWhile_append_of_pos kept, List.takeWhile_append_of_pos kept,
    List.dropWhile_cons, List.takeWhile_cons, found]
  simp

theorem eq_append_of_splitAt? {c : Char} {cs before after : List Char}
    (split : splitAt? c cs = some (before, after)) : cs = before ++ c :: after := by
  rw [splitAt?] at split
  split at split
  · cases split
  · rename_i x rest found
    have stop := List.head?_dropWhile_not (· != c) cs
    rw [found] at stop
    have same : x = c := by simpa using stop
    have whole := List.takeWhile_append_dropWhile (p := (· != c)) (l := cs)
    rw [found, same] at whole
    cases split
    exact whole.symm

/-! ## Reading fields -/

/-- What is made of a field is made of the integer that it holds, if it fits 64 bits. -/
theorem field?_bind_iff {α : Type} {l : Literal} {next : Int → Option α} {v : α} :
    (field? l.text >>= next) = some v ↔ l.Fits 63 ∧ next l.value = some v := by
  rw [field?, l.readSigned?_text]
  split
  · rename_i fits
    exact (and_iff_right fits).symm
  · rename_i unfit
    exact iff_of_false nofun fun holds => unfit holds.1

theorem exists_of_field? {cs : List Char} {n : Int} (read : field? cs = some n) :
    ∃ l : Literal, l.text = cs := by
  obtain ⟨l, text, -⟩ := Literal.exists_of_readSigned? read
  exact ⟨l, text⟩

/-- What a clock shows fits whatever its field is read for. -/
theorem fits_of_shown {l : Literal} (low : 0 ≤ l.value) (high : l.value < 60) : l.Fits 63 := by
  have bits : ((twoPow 63 : Nat) : Int) = 9223372036854775808 := by decide
  rw [Literal.Fits, bits]
  omega

/-- What is made of a field of a clock is made of the integer that it holds, if the clock shows
it. -/
theorem clockField?_bind_iff {α : Type} {bound : Int} (small : bound ≤ 60) {l : Literal}
    {next : Int → Option α} {v : α} :
    (clockField? bound l.text >>= next) = some v ↔
      (0 ≤ l.value ∧ l.value < bound) ∧ next l.value = some v := by
  by_cases shown : 0 ≤ l.value ∧ l.value < bound
  · have fits : l.Fits 63 := fits_of_shown shown.1 (by omega)
    rw [clockField?, field?, l.readSigned?_text, if_pos fits, Option.filter_some]
    simp [shown]
  · rw [clockField?, field?, l.readSigned?_text]
    split
    · rw [Option.filter_some]
      simp [shown]
    · simp [shown]

theorem exists_of_clockField? {bound : Int} {cs : List Char} {n : Int}
    (read : clockField? bound cs = some n) : ∃ l : Literal, l.text = cs :=
  exists_of_field? (Option.filter_eq_some_iff.1 read).1

theorem fractionNanos_eq (r : DigitRun) : fractionNanos r = ofPlaces 9 r.digits := by
  have zeros : (List.replicate 9 0).take (9 - r.digits.length) =
      List.replicate (9 - r.digits.length) 0 := by
    rw [List.take_replicate]
    congr 1
    omega
  rw [fractionNanos, List.take_append, zeros, ofDigits_append_zeros, ofPlaces]

theorem fractionNanos_lt (r : DigitRun) : fractionNanos r < 1000000000 := by
  have small : ∀ d ∈ (r.digits ++ List.replicate 9 0).take 9, d < 10 := by
    intro d member
    rcases List.mem_append.1 (List.mem_of_mem_take member) with digit | zero
    · exact r.digits_lt d digit
    · rw [List.eq_of_mem_replicate zero]
      decide
  have length : ((r.digits ++ List.replicate 9 0).take 9).length = 9 := by
    rw [List.length_take, List.length_append, List.length_replicate]
    omega
  have below := ofDigits_lt small
  rwa [length] at below

theorem fraction?_text (r : DigitRun) : fraction? r.text = some (fractionNanos r : Int) := by
  obtain ⟨d, ds, listed⟩ := List.exists_cons_of_ne_nil r.digits_ne_nil
  rw [fraction?, r.takeAllDigits_text, fractionNanos_eq, listed]

theorem exists_of_fraction? {cs : List Char} {n : Int} (read : fraction? cs = some n) :
    ∃ r : DigitRun, r.text = cs := by
  rw [fraction?] at read
  split at read
  · rename_i d ds taken
    obtain ⟨r, text, -⟩ := DigitRun.exists_of_takeAllDigits taken
    exact ⟨r, text⟩
  · cases read

/-! ## Reading the parts of a clock -/

theorem point_not_mem_text (l : Literal) : '.' ∉ l.text :=
  l.not_mem_text rfl (by decide) (by decide)

theorem colon_not_mem_text (l : Literal) : ':' ∉ l.text :=
  l.not_mem_text rfl (by decide) (by decide)

theorem colon_not_mem_headText (hours : Literal) (count : Option Literal) :
    ':' ∉ headText hours count := by
  cases count with
  | none => exact colon_not_mem_text hours
  | some count =>
    rw [headText, List.mem_append, List.mem_cons]
    rintro (before | point | after)
    · exact colon_not_mem_text count before
    · exact absurd point (by decide)
    · exact colon_not_mem_text hours after

theorem daysAndHours?_text_iff {hours : Literal} {count : Option Literal} {n k : Int} :
    daysAndHours? (headText hours count) = some (n, k) ↔
      (∀ c ∈ count, c.Fits 63) ∧ (0 ≤ hours.value ∧ hours.value < 24) ∧
        count.elim 0 Literal.value = n ∧ hours.value = k := by
  have bound : (24 : Int) ≤ 60 := by decide
  cases count with
  | none =>
    rw [headText, daysAndHours?, splitAt?_of_not_mem (point_not_mem_text hours)]
    dsimp only
    rw [Option.map_eq_bind, ← Option.bind_eq_bind, clockField?_bind_iff bound]
    simp
  | some count =>
    rw [headText, daysAndHours?, splitAt?_append (point_not_mem_text count)]
    dsimp only
    rw [field?_bind_iff, clockField?_bind_iff bound]
    simp

theorem minutesAndSeconds?_text_iff {minutes : Literal} {seconds : Option Seconds} {m s f : Int} :
    minutesAndSeconds? (clockText minutes seconds) = some (m, s, f) ↔
      (0 ≤ minutes.value ∧ minutes.value < 60) ∧
        (∀ t ∈ seconds, 0 ≤ t.whole.value ∧ t.whole.value < 60) ∧ minutes.value = m ∧
        seconds.elim 0 (·.whole.value) = s ∧
        (((seconds.bind Seconds.fraction).elim 0 fractionNanos : Nat) : Int) = f := by
  have bound : (60 : Int) ≤ 60 := Int.le_refl 60
  cases seconds with
  | none =>
    rw [clockText, minutesAndSeconds?, splitAt?_of_not_mem (colon_not_mem_text minutes)]
    dsimp only
    rw [Option.map_eq_bind, ← Option.bind_eq_bind, clockField?_bind_iff bound]
    simp
  | some seconds =>
    obtain ⟨whole, fraction⟩ := seconds
    rw [clockText, minutesAndSeconds?, splitAt?_append (colon_not_mem_text minutes)]
    dsimp only
    rw [clockField?_bind_iff bound]
    cases fraction with
    | none =>
      rw [Seconds.text]
      dsimp only
      rw [splitAt?_of_not_mem (point_not_mem_text whole)]
      dsimp only
      rw [clockField?_bind_iff bound]
      simp
    | some fraction =>
      rw [Seconds.text]
      dsimp only
      rw [splitAt?_append (point_not_mem_text whole)]
      dsimp only
      rw [clockField?_bind_iff bound, fraction?_text]
      simp

theorem exists_of_daysAndHours? {cs : List Char} {parts : Int × Int}
    (read : daysAndHours? cs = some parts) :
    ∃ (count : Option Literal) (hours : Literal), headText hours count = cs := by
  rw [daysAndHours?] at read
  split at read
  · obtain ⟨k, field, -⟩ := Option.map_eq_some_iff.1 read
    obtain ⟨hours, text⟩ := exists_of_clockField? field
    exact ⟨none, hours, text⟩
  · rename_i before after split
    obtain ⟨n, days, read⟩ := Option.bind_eq_some_iff.1 read
    obtain ⟨k, field, -⟩ := Option.bind_eq_some_iff.1 read
    obtain ⟨count, rfl⟩ := exists_of_field? days
    obtain ⟨hours, rfl⟩ := exists_of_clockField? field
    exact ⟨some count, hours, (eq_append_of_splitAt? split).symm⟩

theorem exists_of_minutesAndSeconds? {cs : List Char} {parts : Int × Int × Int}
    (read : minutesAndSeconds? cs = some parts) :
    ∃ (minutes : Literal) (seconds : Option Seconds), clockText minutes seconds = cs := by
  rw [minutesAndSeconds?] at read
  split at read
  · obtain ⟨m, field, -⟩ := Option.map_eq_some_iff.1 read
    obtain ⟨minutes, text⟩ := exists_of_clockField? field
    exact ⟨minutes, none, text⟩
  · rename_i before after split
    obtain ⟨m, first, rest⟩ := Option.bind_eq_some_iff.1 read
    obtain ⟨minutes, rfl⟩ := exists_of_clockField? first
    rw [eq_append_of_splitAt? split]
    split at rest
    · obtain ⟨s, second, -⟩ := Option.bind_eq_some_iff.1 rest
      obtain ⟨whole, rfl⟩ := exists_of_clockField? second
      exact ⟨minutes, some ⟨whole, none⟩, rfl⟩
    · rename_i pointed
      obtain ⟨s, second, rest⟩ := Option.bind_eq_some_iff.1 rest
      obtain ⟨f, digits, -⟩ := Option.bind_eq_some_iff.1 rest
      obtain ⟨whole, rfl⟩ := exists_of_clockField? second
      obtain ⟨fraction, rfl⟩ := exists_of_fraction? digits
      rw [eq_append_of_splitAt? pointed]
      exact ⟨minutes, some ⟨whole, some fraction⟩, rfl⟩

/-! ## Adding up -/

theorem make?_eq_some_iff {n : Int} {d : Duration} : make? n = some d ↔ n = d.nanos := by
  rw [make?]
  split
  · rw [Option.some.injEq, Duration.mk.injEq]
  · rename_i outside
    exact iff_of_false nofun fun same => outside (same ▸ d.nanos_le)

/-- When the parts only add, one check of the whole stands for the checks of all partial sums. -/
theorem foldlM_add? {parts : List Int} {start : Duration}
    (small : ∀ part ∈ parts, 0 ≤ part ∧ part ≤ durationLimit) :
    parts.foldlM add? start = make? (start.nanos + parts.sum) := by
  induction parts generalizing start with
  | nil =>
    rw [List.foldlM_nil, List.sum_nil, Int.add_zero]
    exact (make?_eq_some_iff.2 rfl).symm
  | cons part parts ih =>
    obtain ⟨low, high⟩ := small part List.mem_cons_self
    have rest : ∀ part ∈ parts, 0 ≤ part ∧ part ≤ durationLimit :=
      fun other member => small other (List.mem_cons_of_mem part member)
    have grows : 0 ≤ parts.sum := List.sum_nonneg fun other member => (rest other member).1
    have made : make? part = some ⟨part, by omega⟩ := make?_eq_some_iff.2 rfl
    have below := start.nanos_le
    rw [List.foldlM_cons, add?, made, Option.bind_some, List.sum_cons, ← Int.add_assoc]
    cases sum : make? (start.nanos + part) with
    | none =>
      -- A sum that leaves the range leaves it upwards, and what follows does not bring it back.
      have outside : ¬(start.nanos + part).natAbs ≤ durationLimit := by
        intro within
        rw [make?, dif_pos within] at sum
        cases sum
      rw [make?, dif_neg (by omega)]
      rfl
    | some next =>
      have same := make?_eq_some_iff.1 sum
      rw [Option.bind_eq_bind, Option.bind_some, ih rest, same]

namespace Body

/-- What a clock shows is below a day. -/
theorem clockParts_small {b : Body} (timely : b.Timely) :
    ∀ part ∈ b.clockParts, 0 ≤ part ∧ part ≤ durationLimit := by
  have limit : durationLimit = 9223372036854775807000000 := by decide
  cases b with
  | days count => exact fun part member => absurd member List.not_mem_nil
  | clock count hours minutes seconds =>
    obtain ⟨hour, minute, second⟩ := timely
    have shown : 0 ≤ seconds.elim 0 (·.whole.value) ∧ seconds.elim 0 (·.whole.value) < 60 := by
      cases seconds with
      | none => exact ⟨Int.le_refl 0, by decide⟩
      | some seconds => exact second seconds rfl
    have fraction : (seconds.bind Seconds.fraction).elim 0 fractionNanos < 1000000000 := by
      cases seconds.bind Seconds.fraction with
      | none => decide
      | some fraction => exact fractionNanos_lt fraction
    intro part member
    simp only [clockParts, List.mem_cons, List.not_mem_nil, or_false] at member
    obtain rfl | rfl | rfl | rfl := member <;> omega

/-- A clock only adds to the days. -/
theorem clockParts_nonneg {b : Body} (timely : b.Timely) : 0 ≤ b.clockParts.sum :=
  List.sum_nonneg fun part member => (clockParts_small timely part member).1

theorem nanos_eq (b : Body) : b.nanos = b.start + b.clockParts.sum := List.sum_cons

/-- The fields of a clock are too small to exceed any width, so only the days may. -/
theorem fits_iff {b : Body} (timely : b.Timely) : b.Fits ↔ ∀ c ∈ b.count?, c.Fits 63 := by
  cases b with
  | days count => simp [Fits, fields, count?]
  | clock count hours minutes seconds =>
    obtain ⟨hour, minute, second⟩ := timely
    have hoursFit : hours.Fits 63 := fits_of_shown hour.1 (by omega)
    have minutesFit : minutes.Fits 63 := fits_of_shown minute.1 minute.2
    have secondsFit : ∀ s ∈ seconds, s.whole.Fits 63 :=
      fun s member => fits_of_shown (second s member).1 (second s member).2
    cases count <;> cases seconds <;> simp_all [Fits, fields, count?]

end Body

/-! ## Reading the body -/

/-- A body that can be read: a clock's fields, and days in their range before anything is added. -/
structure Body.Readable (b : Body) : Prop where
  timely : b.Timely
  fits : b.Fits
  start_le : b.start.natAbs ≤ durationLimit

/-- Reading a body checks its fields, and then adds what a clock shows to the days. -/
theorem readBody?_text_iff_steps {b : Body} {d : Duration} :
    readBody? b.text = some d ↔ (b.Timely ∧ ∀ c ∈ b.count?, c.Fits 63) ∧
      ∃ first, make? b.start = some first ∧ b.clockParts.foldlM add? first = some d := by
  cases b with
  | days count =>
    rw [Body.text, readBody?, splitAt?_of_not_mem (colon_not_mem_text count)]
    dsimp only
    rw [← Option.bind_eq_bind, field?_bind_iff]
    simp [Body.Timely, Body.count?, Body.start, Body.clockParts, days?]
  | clock count hours minutes seconds =>
    rw [Body.text, readBody?, splitAt?_append (colon_not_mem_headText hours count)]
    dsimp only
    constructor
    · intro success
      obtain ⟨⟨n, k⟩, front, success⟩ := Option.bind_eq_some_iff.1 success
      obtain ⟨⟨m, s, f⟩, back, success⟩ := Option.bind_eq_some_iff.1 success
      obtain ⟨days, hour, rfl, rfl⟩ := daysAndHours?_text_iff.1 front
      obtain ⟨minute, second, rfl, rfl, rfl⟩ := minutesAndSeconds?_text_iff.1 back
      exact ⟨⟨⟨hour, minute, second⟩, days⟩, Option.bind_eq_some_iff.1 success⟩
    · rintro ⟨⟨⟨hour, minute, second⟩, days⟩, added⟩
      have front : daysAndHours? (headText hours count) =
          some (count.elim 0 Literal.value, hours.value) :=
        daysAndHours?_text_iff.2 ⟨days, hour, rfl, rfl⟩
      have back := minutesAndSeconds?_text_iff.2 ⟨minute, second, rfl, rfl, rfl⟩
      refine Option.bind_eq_some_iff.2 ⟨_, front, Option.bind_eq_some_iff.2 ⟨_, back, ?_⟩⟩
      exact Option.bind_eq_some_iff.2 added

theorem readBody?_text_iff {b : Body} {d : Duration} :
    readBody? b.text = some d ↔ b.Readable ∧ b.nanos = d.nanos := by
  rw [readBody?_text_iff_steps]
  constructor
  · rintro ⟨⟨timely, days⟩, first, begun, added⟩
    have same := make?_eq_some_iff.1 begun
    rw [foldlM_add? (Body.clockParts_small timely), make?_eq_some_iff, ← same,
      ← Body.nanos_eq] at added
    exact ⟨⟨timely, (Body.fits_iff timely).2 days, same ▸ first.nanos_le⟩, added⟩
  · rintro ⟨⟨timely, fits, within⟩, total⟩
    refine ⟨⟨timely, (Body.fits_iff timely).1 fits⟩, ⟨b.start, within⟩, make?_eq_some_iff.2 rfl, ?_⟩
    rw [foldlM_add? (Body.clockParts_small timely), make?_eq_some_iff, ← total, Body.nanos_eq]

/-- Every text that is read spells a body. -/
theorem exists_of_readBody? {cs : List Char} {d : Duration} (read : readBody? cs = some d) :
    ∃ b : Body, b.text = cs := by
  rw [readBody?] at read
  split at read
  · obtain ⟨n, field, -⟩ := Option.bind_eq_some_iff.1 read
    obtain ⟨count, text⟩ := exists_of_field? field
    exact ⟨.days count, text⟩
  · rename_i head clock split
    obtain ⟨⟨n, k⟩, front, read⟩ := Option.bind_eq_some_iff.1 read
    obtain ⟨⟨m, s, f⟩, back, -⟩ := Option.bind_eq_some_iff.1 read
    obtain ⟨count, hours, headed⟩ := exists_of_daysAndHours? front
    obtain ⟨minutes, seconds, clocked⟩ := exists_of_minutesAndSeconds? back
    refine ⟨.clock count hours minutes seconds, ?_⟩
    rw [Body.text, headed, clocked, eq_append_of_splitAt? split]

end RowQuery.Duration
