import RowQuery.Number.Decimal
import RowQuery.Proofs.Text.Numeral

/-!
# Decimals read back

The text of a decimal has all its digits, so reading it never has to round: every digit fits, since
each run of leading digits is a number that is no larger than the coefficient, and the last place is
the twenty-eighth at the latest, with nothing behind it. Main statement: what is read has the
coefficient and the places that were written, and the sign unless it is a zero, which has none in
positional notation.
-/
namespace RowQuery.Text

/-- The number whose digits are those of `n` and then the given ones. -/
def appendDigits (n : Nat) (ds : List Nat) : Nat := ds.foldl (fun n d => 10 * n + d) n

@[simp] theorem appendDigits_nil (n : Nat) : appendDigits n [] = n := rfl

@[simp] theorem appendDigits_cons (n d : Nat) (ds : List Nat) :
    appendDigits n (d :: ds) = appendDigits (10 * n + d) ds := rfl

theorem appendDigits_zero (ds : List Nat) : appendDigits 0 ds = ofDigits ds := rfl

theorem ofDigits_append (ds es : List Nat) :
    ofDigits (ds ++ es) = appendDigits (ofDigits ds) es :=
  List.foldl_append

theorem le_appendDigits (n : Nat) (ds : List Nat) : n ≤ appendDigits n ds := by
  induction ds generalizing n with
  | nil => exact Nat.le_refl n
  | cons d ds ih => exact Nat.le_trans (by omega) (ih (10 * n + d))

end RowQuery.Text

namespace RowQuery.Decimal
open Text

/-! ## Runs of digits -/

/-- A digit that fits is pushed, and reading goes on unless it was the last place there is. -/
theorem Reading.run_digit {r : Reading} {d : Nat} (small : d < 10)
    (fits : 10 * r.coefficient + d < decimalLimit) (cs : List Char) :
    r.run (digitChar d :: cs) =
      if (r.push (10 * r.coefficient + d)).pointed
          && decimalPlaces ≤ (r.push (10 * r.coefficient + d)).places then
        (r.push (10 * r.coefficient + d)).complete (r.coefficient < shortLimit) cs
      else (r.push (10 * r.coefficient + d)).run cs := by
  simp only [Reading.run, digit?_digitChar small, if_neg (Nat.not_le.2 fits)]

/-- Digits in front of the point add nothing but themselves. -/
theorem Reading.run_whole {ds : List Nat} (small : ∀ d ∈ ds, d < 10) {n : Nat}
    (fits : appendDigits n ds < decimalLimit) (started : Bool) (rest : List Char) :
    (⟨n, 0, false, started⟩ : Reading).run (ds.map digitChar ++ rest) =
      (⟨appendDigits n ds, 0, false, started || !ds.isEmpty⟩ : Reading).run rest := by
  induction ds generalizing n started with
  | nil => simp
  | cons d ds ih =>
    obtain ⟨head, tail⟩ := List.forall_mem_cons.1 small
    have next : 10 * n + d < decimalLimit :=
      Nat.lt_of_le_of_lt (le_appendDigits (10 * n + d) ds) fits
    have onward := ih tail (n := 10 * n + d) fits true
    rw [List.map_cons, List.cons_append, Reading.run_digit head next]
    simpa [Reading.push] using onward

/-- Digits behind the point count as places. When the last place is reached, no character is left
that could round it. -/
theorem Reading.run_fraction {ds : List Nat} (small : ∀ d ∈ ds, d < 10) {n places : Nat}
    (fits : appendDigits n ds < decimalLimit) (room : places + ds.length ≤ decimalPlaces) :
    (⟨n, places, true, true⟩ : Reading).run (ds.map digitChar) =
      some ⟨appendDigits n ds, places + ds.length, true, true⟩ := by
  induction ds generalizing n places with
  | nil => rfl
  | cons d ds ih =>
    obtain ⟨head, tail⟩ := List.forall_mem_cons.1 small
    have next : 10 * n + d < decimalLimit :=
      Nat.lt_of_le_of_lt (le_appendDigits (10 * n + d) ds) fits
    have length : places + (d :: ds).length = places + 1 + ds.length := by
      rw [List.length_cons]
      omega
    rw [length] at room ⊢
    rw [List.map_cons, Reading.run_digit head next]
    by_cases last : decimalPlaces ≤ places + 1
    -- the last place there is: reading stops, and there is no room for a digit behind it
    · obtain rfl : ds = [] := List.eq_nil_of_length_eq_zero (by omega)
      simp [Reading.push, last, Reading.complete, Reading.round]
    · simpa [Reading.push, last] using ih tail (n := 10 * n + d) fits room

/-! ## The text of a decimal -/

/-- The digits of a decimal, with a zero in front of the point if there is nothing else. -/
def allDigits (x : Decimal) : List Nat := paddedDigits (x.places + 1) x.coefficient

/-- The digits in front of the point. -/
def wholeDigits (x : Decimal) : List Nat := x.allDigits.take (x.allDigits.length - x.places)

/-- The digits behind the point. -/
def fractionDigits (x : Decimal) : List Nat := x.allDigits.drop (x.allDigits.length - x.places)

theorem wholeDigits_lt (x : Decimal) : ∀ d ∈ x.wholeDigits, d < 10 := fun d member =>
  paddedDigits_lt _ _ d (List.mem_of_mem_take member)

theorem fractionDigits_lt (x : Decimal) : ∀ d ∈ x.fractionDigits, d < 10 := fun d member =>
  paddedDigits_lt _ _ d (List.mem_of_mem_drop member)

theorem places_lt_length_allDigits (x : Decimal) : x.places < x.allDigits.length :=
  le_length_paddedDigits (x.places + 1) x.coefficient

theorem length_fractionDigits (x : Decimal) : x.fractionDigits.length = x.places := by
  have long := x.places_lt_length_allDigits
  rw [fractionDigits, List.length_drop]
  omega

theorem wholeDigits_ne_nil (x : Decimal) : x.wholeDigits ≠ [] := by
  have long := x.places_lt_length_allDigits
  refine List.ne_nil_of_length_pos ?_
  rw [wholeDigits, List.length_take]
  omega

/-- Whole digits and then the places give the coefficient. -/
theorem appendDigits_fractionDigits (x : Decimal) :
    appendDigits (ofDigits x.wholeDigits) x.fractionDigits = x.coefficient := by
  rw [← ofDigits_append, wholeDigits, fractionDigits, List.take_append_drop, allDigits,
    ofDigits_paddedDigits]

/-- The text of a decimal behind its sign. -/
def unsignedText (x : Decimal) : List Char :=
  x.wholeDigits.map digitChar ++
    if x.places = 0 then [] else '.' :: x.fractionDigits.map digitChar

theorem write_eq (x : Decimal) :
    x.write = (if x.negative then ['-'] else []) ++ x.unsignedText := by
  rw [write, unsignedText, wholeDigits, fractionDigits, allDigits, paddedNumeral_eq]
  simp only [List.length_map, List.map_take, List.map_drop]
  by_cases whole : x.places = 0
  · simp [whole]
  · simp [whole]

theorem solid_write (x : Decimal) : Solid x.write := by
  have sign : Solid (if x.negative then ['-'] else []) := by
    cases x.negative with
    | false => exact solid_nil
    | true => exact solid_cons.2 ⟨by decide, solid_nil⟩
  have fraction : Solid (if x.places = 0 then [] else '.' :: x.fractionDigits.map digitChar) := by
    split
    · exact solid_nil
    · exact solid_cons.2 ⟨by decide, solid_map_digitChar x.fractionDigits_lt⟩
  rw [write_eq, unsignedText]
  exact solid_append.2 ⟨sign, solid_append.2 ⟨solid_map_digitChar x.wholeDigits_lt, fraction⟩⟩

/-! ## Reading the text -/

/-- The digits are read to the coefficient and the places that were written. -/
theorem run_unsignedText (x : Decimal) : ∃ pointed,
    Reading.run {} x.unsignedText = some ⟨x.coefficient, x.places, pointed, true⟩ := by
  have coefficient := x.appendDigits_fractionDigits
  have below : ofDigits x.wholeDigits < decimalLimit := by
    refine Nat.lt_of_le_of_lt (le_appendDigits _ x.fractionDigits) ?_
    rw [coefficient]
    exact x.coefficient_lt
  have whole := Reading.run_whole x.wholeDigits_lt (n := 0) below false
  have some_digit : (false || !x.wholeDigits.isEmpty) = true := by
    simpa using x.wholeDigits_ne_nil
  rw [some_digit, appendDigits_zero] at whole
  by_cases pointless : x.places = 0
  · have none_left : x.fractionDigits = [] :=
      List.eq_nil_of_length_eq_zero (x.length_fractionDigits.trans pointless)
    rw [none_left] at coefficient
    refine ⟨false, ?_⟩
    rw [unsignedText, if_pos pointless, pointless, ← coefficient]
    exact whole []
  · refine ⟨true, ?_⟩
    have room : 0 + x.fractionDigits.length ≤ decimalPlaces := by
      rw [x.length_fractionDigits, Nat.zero_add]
      exact x.places_le
    have fraction := Reading.run_fraction x.fractionDigits_lt (n := ofDigits x.wholeDigits)
      (coefficient ▸ x.coefficient_lt) room
    rw [coefficient, x.length_fractionDigits, Nat.zero_add] at fraction
    rw [unsignedText, if_neg pointless]
    refine (whole _).trans ?_
    simpa [Reading.run, digit?] using fraction

/-- The decimal without the sign that a zero may have. -/
def canonical (x : Decimal) : Decimal := { x with negative := x.negative && x.coefficient != 0 }

theorem readUnsigned?_unsignedText (x : Decimal) :
    readUnsigned? x.negative x.unsignedText = some x.canonical := by
  obtain ⟨pointed, run⟩ := x.run_unsignedText
  rw [readUnsigned?, run]
  simp [make?, x.coefficient_lt, x.places_le, canonical]

theorem readPositional?_write (x : Decimal) : readPositional? x.write = some x.canonical := by
  have read := x.readUnsigned?_unsignedText
  rw [write_eq]
  cases negative : x.negative with
  | true =>
    rw [negative] at read
    exact read
  | false =>
    rw [negative] at read
    obtain ⟨d, small, cs, starts⟩ :=
      map_digitChar_eq_cons x.wholeDigits_ne_nil x.wholeDigits_lt
    rw [unsignedText, starts, List.cons_append] at read ⊢
    rw [if_neg Bool.false_ne_true, List.nil_append, readPositional?, read]
    · intro _ minus
      exact digitChar_ne small rfl (List.cons.inj minus).1
    · intro _ plus
      exact digitChar_ne small rfl (List.cons.inj plus).1

theorem read?_write (x : Decimal) : read? x.write = some x.canonical := by
  rw [read?, readPositional?_write, Option.some_or]

/-- A zero has no sign as a number. -/
theorem position_canonical (x : Decimal) : x.canonical.position = x.position := by
  cases negative : x.negative with
  | false => simp [position, canonical, negative]
  | true =>
    by_cases zero : x.coefficient = 0
    · simp [position, canonical, negative, zero]
    · simp [position, canonical, negative, zero]

end RowQuery.Decimal
