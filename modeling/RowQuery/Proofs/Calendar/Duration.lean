import RowQuery.Proofs.Calendar.DurationBody
import RowQuery.Value.Reading

/-!
# The texts of durations

A duration is documented as `[-][d.]h:m[:s[.f]]`, or `[-]d` for whole days. A text of that form
denotes exactly what it says, as far as durations go, and is refused beyond. The reader of fields
allows each a sign of its own, which the documented form does not; what is accepted besides is
described by the same data.
-/
namespace RowQuery.Duration
open Text
open Integer (Literal)

/-- A duration as it is written. A minus sign at the front is the one of the whole. -/
structure Written where
  negative : Bool
  body : Body
  front : negative = false → body.lead.sign ≠ .minus
  deriving DecidableEq

namespace Written

def text (w : Written) : List Char := (if w.negative then ['-'] else []) ++ w.body.text

def nanos (w : Written) : Int := if w.negative then -w.body.nanos else w.body.nanos

/-- The text is the one of the duration, blanks around it aside. -/
def SpelledBy (w : Written) (raw : String) : Prop := Padded w.text raw.toList

/-- The documented form: digits alone in all fields, and hours, minutes and seconds of a clock. -/
structure Documented (w : Written) : Prop where
  unsigned : w.body.Unsigned
  timely : w.body.Timely

end Written

/-! ## Signs -/

namespace Body

/-- Apart from digits, colons and points, only what stands in the fields stands in a body. -/
theorem mem_text_iff (b : Body) {c : Char} (other : digit? c = none) (colon : c ≠ ':')
    (point : c ≠ '.') : c ∈ b.text ↔ ∃ field ∈ b.fields, c ∈ field.text := by
  have notDigit (r : DigitRun) : c ∉ r.text := r.not_mem_text other
  cases b with
  | days count => simp [text, fields]
  | clock count hours minutes seconds =>
    rcases count with _ | count <;> rcases seconds with _ | ⟨whole, _ | fraction⟩ <;>
      simp [text, fields, headText, clockText, Seconds.text, colon, point, notDigit]

theorem unsigned_iff (b : Body) : b.Unsigned ↔ '+' ∉ b.text ∧ '-' ∉ b.text := by
  rw [b.mem_text_iff rfl (by decide) (by decide), b.mem_text_iff rfl (by decide) (by decide)]
  simp only [Unsigned, Literal.sign_eq_absent_iff, not_exists, not_and, forall_and]

theorem text_eq_lead_append (b : Body) : ∃ rest, b.text = b.lead.text ++ rest := by
  cases b with
  | days count => exact ⟨[], (List.append_nil _).symm⟩
  | clock count hours minutes seconds =>
    cases count with
    | none => exact ⟨_, rfl⟩
    | some count => exact ⟨_, by rw [text, headText, List.append_assoc]; rfl⟩

theorem head?_text_eq_minus (b : Body) : b.text.head? = some '-' ↔ b.lead.sign = .minus := by
  obtain ⟨rest, starts⟩ := b.text_eq_lead_append
  rw [starts, List.head?_append_of_ne_nil _ b.lead.text_ne_nil, Literal.head?_text_eq_minus]

/-- Only a minus sign in front of the days makes them negative. -/
theorem lead_sign_of_start_neg {b : Body} (negative : b.start < 0) : b.lead.sign = .minus := by
  have days : b.count?.elim 0 Literal.value < 0 := by
    rw [start, nanosPerDay] at negative
    omega
  cases b with
  | days count => exact Literal.sign_of_value_neg days
  | clock count hours minutes seconds =>
    cases count with
    | none => exact absurd days (Int.lt_irrefl 0)
    | some count => exact Literal.sign_of_value_neg days

theorem lead_mem_fields (b : Body) : b.lead ∈ b.fields := by
  cases b with
  | days count => exact List.mem_cons_self
  | clock count hours minutes seconds => cases count <;> simp [lead, fields]

theorem start_nonneg {b : Body} (unsigned : b.Unsigned) : 0 ≤ b.start := by
  by_contra negative
  have own := unsigned b.lead b.lead_mem_fields
  rw [lead_sign_of_start_neg (Int.not_le.1 negative)] at own
  cases own

theorem solid_text (b : Body) : Solid b.text := by
  have colon : isBlank ':' = false := by decide
  have point : isBlank '.' = false := by decide
  cases b with
  | days count => exact count.solid_text
  | clock count hours minutes seconds =>
    rcases count with _ | count <;> rcases seconds with _ | ⟨whole, _ | fraction⟩ <;>
      simp [text, headText, clockText, Seconds.text, solid_append, solid_cons, colon, point,
        Literal.solid_text, DigitRun.solid_text]

end Body

namespace Written

theorem solid_text (w : Written) : Solid w.text := by
  rw [text]
  split
  · exact solid_cons.2 ⟨by decide, w.body.solid_text⟩
  · exact w.body.solid_text

theorem spelledBy_iff {w : Written} {raw : String} :
    w.SpelledBy raw ↔ trimChars raw.toList = w.text := padded_iff w.solid_text

/-- The text begins with a minus sign exactly if the whole has one. -/
theorem head?_text_eq_minus (w : Written) : w.text.head? = some '-' ↔ w.negative = true := by
  rw [text]
  cases sign : w.negative with
  | true => simp
  | false =>
    have front := w.front sign
    rw [ne_eq, ← Body.head?_text_eq_minus] at front
    simpa using front

theorem unsigned_iff (w : Written) : w.body.Unsigned ↔ '+' ∉ w.text ∧ '-' ∉ w.text.tail := by
  have head := w.head?_text_eq_minus
  rw [Body.unsigned_iff, text]
  rw [text] at head
  cases sign : w.negative with
  | true => simp
  | false =>
    -- A minus sign at the front would be the one of the whole.
    rw [sign] at head
    cases text : w.body.text with
    | nil => simp
    | cons c cs =>
      have other : c ≠ '-' := by
        rintro rfl
        simp [text] at head
      simp [other.symm]

/-- What is read for a text is what it spells, if the body can be read. -/
theorem read?_text_iff {w : Written} {d : Duration} :
    read? w.text = some d ↔ w.body.Readable ∧ w.nanos = d.nanos := by
  cases sign : w.negative with
  | true =>
    have text : w.text = '-' :: w.body.text := by rw [text, sign]; rfl
    have nanos : w.nanos = -w.body.nanos := by rw [nanos, sign]; rfl
    rw [text, read?, nanos]
    constructor
    · intro success
      obtain ⟨inner, read, turned⟩ := Option.map_eq_some_iff.1 success
      obtain ⟨readable, same⟩ := readBody?_text_iff.1 read
      rw [same, ← turned]
      exact ⟨readable, rfl⟩
    · rintro ⟨readable, same⟩
      refine Option.map_eq_some_iff.2 ⟨d.neg, readBody?_text_iff.2 ⟨readable, ?_⟩, ?_⟩
      · change w.body.nanos = -d.nanos
        omega
      · simp [neg]
  | false =>
    have text : w.text = w.body.text := by rw [text, sign]; rfl
    have nanos : w.nanos = w.body.nanos := by rw [nanos, sign]; rfl
    have plain : ∀ cs, w.body.text = '-' :: cs → False := by
      intro cs starts
      have head := w.head?_text_eq_minus.1 (by rw [text, starts]; rfl)
      rw [sign] at head
      cases head
    rw [text, read?.eq_2 _ plain, nanos, readBody?_text_iff]

theorem exists_of_read? {cs : List Char} {d : Duration} (read : read? cs = some d) :
    ∃ w : Written, w.text = cs := by
  unfold read? at read
  split at read
  · obtain ⟨inner, read, -⟩ := Option.map_eq_some_iff.1 read
    obtain ⟨b, rfl⟩ := exists_of_readBody? read
    exact ⟨⟨true, b, nofun⟩, rfl⟩
  · rename_i plain
    obtain ⟨b, rfl⟩ := exists_of_readBody? read
    refine ⟨⟨false, b, fun _ own => ?_⟩, rfl⟩
    obtain ⟨cs, starts⟩ := List.head?_eq_some_iff.1 (b.head?_text_eq_minus.2 own)
    exact plain cs starts

end Written

/-! ## The documented form -/

/-- A bound is accepted exactly if its text, blanks around it aside, is read. -/
theorem parseTemporal_eq_ok_iff {raw : String} {d : Duration} :
    parseTemporal raw .duration = .ok d ↔ read? (trimChars raw.toList) = some d :=
  parseTemporal_success rfl

theorem parseTemporal_eq_error {raw : String} (unread : read? (trimChars raw.toList) = none) :
    parseTemporal raw .duration = .error (.invalidFilterValue raw .duration) := by
  change accept raw .duration (read? (trimChars raw.toList)) = _
  rw [unread]
  rfl

namespace Written

/-- Without signs in the fields nothing is subtracted, so that every partial sum stays below the
whole. -/
theorem Documented.sublist_sum_le {w : Written} (documented : w.Documented) {parts : List Int}
    (some : parts.Sublist w.body.parts) :
    parts.sum.natAbs ≤ w.nanos.natAbs := by
  have nonneg : ∀ part ∈ w.body.parts, 0 ≤ part := by
    intro part member
    obtain rfl | member := List.mem_cons.1 member
    · exact Body.start_nonneg documented.unsigned
    · exact (Body.clockParts_small documented.timely part member).1
  have low : 0 ≤ parts.sum := List.sum_nonneg fun part member => nonneg part (some.subset member)
  have high : parts.sum ≤ w.body.nanos := some.sum_le_sum nonneg
  have whole : w.nanos.natAbs = w.body.nanos.natAbs := by
    rw [nanos]
    split
    · exact Int.natAbs_neg _
    · rfl
  omega

theorem Documented.readable_iff {w : Written} (documented : w.Documented)
    (within : w.nanos.natAbs ≤ durationLimit) : w.body.Readable ↔ w.body.Fits := by
  have start := documented.sublist_sum_le (List.singleton_sublist.2 List.mem_cons_self)
  rw [List.sum_singleton] at start
  exact ⟨Body.Readable.fits, fun fits => ⟨documented.timely, fits, start.trans within⟩⟩

end Written

/-- In the documented form a duration is what its fields say, of any number of digits each: with
the sign in front the days, hours, minutes, seconds and nanoseconds in all. It is accepted exactly
if its integers fit 64 bits and the whole is in range. Then no part of it and no sum of some of its
parts is out of range, so that no check on the way refuses it. -/
theorem parseTemporal_documented {w : Written} (documented : w.Documented) {raw : String}
    (spelled : w.SpelledBy raw) :
    (parseTemporal raw .duration =
      if held : w.body.Fits ∧ w.nanos.natAbs ≤ durationLimit then .ok (⟨w.nanos, held.2⟩ : Duration)
      else .error (.invalidFilterValue raw .duration)) ∧
    (w.nanos.natAbs ≤ durationLimit → ∀ parts : List Int, parts.Sublist w.body.parts →
      parts.sum.natAbs ≤ durationLimit) := by
  have text : trimChars raw.toList = w.text := Written.spelledBy_iff.1 spelled
  refine ⟨?_, fun within parts some => (documented.sublist_sum_le some).trans within⟩
  split
  · rename_i held
    rw [parseTemporal_eq_ok_iff, text, Written.read?_text_iff]
    exact ⟨(documented.readable_iff held.2).2 held.1, rfl⟩
  · rename_i refused
    refine parseTemporal_eq_error (Option.eq_none_iff_forall_ne_some.2 fun d success => ?_)
    rw [text, Written.read?_text_iff] at success
    obtain ⟨readable, same⟩ := success
    exact refused ⟨readable.fits, same ▸ d.nanos_le⟩

/-- The length of time farthest below zero, but for a fraction of a second of one's own. -/
def farthest (fraction : DigitRun) : Written where
  negative := true
  body := .clock (some ⟨.absent, [0, 1, 0, 6, 7, 5, 1, 9, 9, 1, 1, 6, 7], by decide, by decide⟩)
    ⟨.absent, [0, 7], by decide, by decide⟩ ⟨.absent, [1, 2], by decide, by decide⟩
    (some ⟨⟨.absent, [5, 5], by decide, by decide⟩, some fraction⟩)
  front := nofun

/-- The limit is accepted with blanks around it and with a digit to spare, and one nanosecond
farther is refused. -/
theorem farthest_accepted :
    parseTemporal " -0106751991167.07:12:55.8070000009\n" .duration =
        .ok (⟨-9223372036854775807000000, by decide⟩ : Duration) ∧
      parseTemporal "-0106751991167.07:12:55.807000001" .duration =
        .error (.invalidFilterValue "-0106751991167.07:12:55.807000001" .duration) := by
  constructor
  · let w := farthest ⟨[8, 0, 7, 0, 0, 0, 0, 0, 0, 9], by decide, by decide⟩
    have documented : w.Documented := ⟨by decide, by decide⟩
    have spelled : w.SpelledBy " -0106751991167.07:12:55.8070000009\n" :=
      ⟨[' '], ['\n'], by decide, List.forall_mem_singleton.2 (by decide),
        List.forall_mem_singleton.2 (by decide)⟩
    have held : w.body.Fits ∧ w.nanos.natAbs ≤ durationLimit := ⟨by decide, by decide⟩
    rw [(parseTemporal_documented documented spelled).1, dif_pos held]
    rfl
  · let w := farthest ⟨[8, 0, 7, 0, 0, 0, 0, 0, 1], by decide, by decide⟩
    have documented : w.Documented := ⟨by decide, by decide⟩
    have spelled : w.SpelledBy "-0106751991167.07:12:55.807000001" :=
      ⟨[], [], by decide, List.forall_mem_nil _, List.forall_mem_nil _⟩
    have refused : ¬(w.body.Fits ∧ w.nanos.natAbs ≤ durationLimit) := by decide
    rw [(parseTemporal_documented documented spelled).1, dif_neg refused]

/-! ## All that is read -/

namespace Written

/-- Behind a sign of the whole only days that are negative themselves make a positive duration. -/
theorem body_begins_with_minus {w : Written} (negative : w.negative = true)
    (readable : w.body.Readable) (positive : 0 < w.nanos) : w.body.text.head? = some '-' := by
  have turned : w.nanos = -w.body.nanos := by rw [nanos, negative]; rfl
  have added := Body.clockParts_nonneg readable.timely
  have whole := Body.nanos_eq w.body
  have before : w.body.start < 0 := by omega
  exact w.body.head?_text_eq_minus.2 (Body.lead_sign_of_start_neg before)

end Written

theorem parseTemporal_eq_ok_iff_spelled {raw : String} {d : Duration} :
    parseTemporal raw .duration = .ok d ↔
      ∃ w : Written, w.SpelledBy raw ∧ w.body.Readable ∧ w.nanos = d.nanos := by
  rw [parseTemporal_eq_ok_iff]
  constructor
  · intro success
    obtain ⟨w, text⟩ := Written.exists_of_read? success
    rw [← text] at success
    exact ⟨w, Written.spelledBy_iff.2 text.symm, Written.read?_text_iff.1 success⟩
  · rintro ⟨w, spelled, readable⟩
    rw [Written.spelledBy_iff.1 spelled]
    exact Written.read?_text_iff.2 readable

/-- The durations that are read. Blanks around it aside, an accepted text spells days, or a clock of
less than 24 hours with minutes and seconds below 60 and days in front of it or none; every field
but the fraction of a second may have a sign of its own. The text is of the documented form exactly
if it holds no plus sign, and no minus sign behind its first character. One that begins with a minus
sign yields a positive duration only if a second minus sign follows. -/
theorem parseTemporal_duration (raw : String) :
    (∀ d : Duration, parseTemporal raw .duration = .ok d ↔
      ∃ w : Written, w.SpelledBy raw ∧ w.body.Readable ∧ w.nanos = d.nanos) ∧
    ∀ d : Duration, parseTemporal raw .duration = .ok d →
      ((∃ w : Written, w.Documented ∧ w.SpelledBy raw) ↔
        '+' ∉ trimChars raw.toList ∧ '-' ∉ (trimChars raw.toList).tail) ∧
      ∀ cs, trimChars raw.toList = '-' :: cs → 0 < d.nanos → cs.head? = some '-' := by
  refine ⟨fun d => parseTemporal_eq_ok_iff_spelled, fun d success => ?_⟩
  obtain ⟨w, spelled, readable, same⟩ := parseTemporal_eq_ok_iff_spelled.1 success
  have text : trimChars raw.toList = w.text := Written.spelledBy_iff.1 spelled
  refine ⟨⟨?_, fun plain => ?_⟩, fun cs starts positive => ?_⟩
  · rintro ⟨other, documented, spelledToo⟩
    rw [Written.spelledBy_iff.1 spelledToo]
    exact other.unsigned_iff.1 documented.unsigned
  · rw [text] at plain
    exact ⟨w, ⟨w.unsigned_iff.2 plain, readable.timely⟩, spelled⟩
  · rw [text] at starts
    have negative : w.negative = true := w.head?_text_eq_minus.1 (by rw [starts]; rfl)
    have behind : w.body.text = cs := by
      rw [Written.text, negative] at starts
      exact (List.cons.inj starts).2
    rw [← same] at positive
    exact behind ▸ Written.body_begins_with_minus negative readable positive

/-- Signs of minutes and hours are let through. -/
theorem signedClock_duration :
    parseTemporal " -1.+2:-0 " .duration = .ok (⟨-93600000000000, by decide⟩ : Duration) ∧
      ¬∃ w : Written, w.Documented ∧ w.SpelledBy " -1.+2:-0 " := by
  have success : parseTemporal " -1.+2:-0 " .duration =
      .ok (⟨-93600000000000, by decide⟩ : Duration) := by decide
  refine ⟨success, fun documented => ?_⟩
  have plain := (((parseTemporal_duration _).2 _ success).1.1 documented).1
  exact absurd plain (by decide)

/-- Two minus signs make a positive duration, of no documented form. -/
theorem doubleMinus_duration :
    (∃ d : Duration, parseTemporal "--5" .duration = .ok d ∧ 0 < d.nanos) ∧
      ¬∃ w : Written, w.Documented ∧ w.SpelledBy "--5" := by
  refine ⟨⟨⟨432000000000000, by decide⟩, by decide, by decide⟩, ?_⟩
  rintro ⟨w, documented, spelled⟩
  have text := Written.spelledBy_iff.1 spelled
  have plain := (w.unsigned_iff.1 documented.unsigned).2
  rw [← text] at plain
  exact absurd plain (by decide)

end RowQuery.Duration
