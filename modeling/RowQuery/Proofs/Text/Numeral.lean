import Mathlib.Data.List.Induction
import RowQuery.Text.Numeral
import RowQuery.Text.Basic

/-!
# Numerals read back

A numeral holds the digits of its number and nothing else. Readers that take a run of digits off the
front of a text so take a whole numeral, as long as no other digit follows it, and find its number.
-/
namespace RowQuery.Text

/-! ## Digits -/

theorem digit?_digitChar {d : Nat} (small : d < 10) : digit? (digitChar d) = some d := by
  have all : ∀ d < 10, digit? (digitChar d) = some d := by decide
  exact all d small

theorem isBlank_digitChar {d : Nat} (small : d < 10) : isBlank (digitChar d) = false := by
  have all : ∀ d < 10, isBlank (digitChar d) = false := by decide
  exact all d small

theorem hexDigit?_hexChar {d : Nat} (small : d < 16) : hexDigit? (hexChar d) = some d := by
  have all : ∀ d < 16, hexDigit? (hexChar d) = some d := by decide
  exact all d small

theorem isBlank_hexChar {d : Nat} (small : d < 16) : isBlank (hexChar d) = false := by
  have all : ∀ d < 16, isBlank (hexChar d) = false := by decide
  exact all d small

theorem digit?_eq_some {c : Char} {d : Nat} (digit : digit? c = some d) :
    d < 10 ∧ c = digitChar d := by
  rw [digit?] at digit
  split at digit
  · rename_i range
    have low : 48 ≤ c.toNat := range.1
    have high : c.toNat ≤ 57 := range.2
    cases digit
    have whole : 48 + (c.toNat - 48) = c.toNat := by omega
    exact ⟨by omega, by rw [digitChar, whole, Char.ofNat_toNat]⟩
  · cases digit

/-- A digit is no sign, point or colon. -/
theorem digitChar_ne {d : Nat} (small : d < 10) {c : Char} (other : digit? c = none) :
    digitChar d ≠ c := by
  intro same
  have digit := digit?_digitChar small
  rw [same, other] at digit
  cases digit

theorem digits_ne_nil (n : Nat) : digits n ≠ [] := by
  rw [digits]
  split <;> simp

theorem numeral_ne_nil (n : Nat) : numeral n ≠ [] := by
  simp [numeral, digits_ne_nil]

theorem signedNumeral_ne_nil (n : Int) : signedNumeral n ≠ [] := by
  rw [signedNumeral]
  split
  · exact List.cons_ne_nil _ _
  · exact numeral_ne_nil _

theorem digits_of_lt {n : Nat} (small : n < 10) : digits n = [n] := by
  rw [digits, if_pos small]

theorem digits_of_ge {n : Nat} (large : 10 ≤ n) : digits n = digits (n / 10) ++ [n % 10] := by
  rw [digits, if_neg (by omega)]

theorem digits_lt (n : Nat) : ∀ d ∈ digits n, d < 10 := by
  induction n using Nat.strongRecOn with
  | _ n ih =>
    by_cases small : n < 10
    · rw [digits_of_lt small]
      simpa using small
    · rw [digits_of_ge (by omega)]
      intro d member
      rcases List.mem_append.1 member with earlier | last
      · exact ih (n / 10) (by omega) d earlier
      · rw [List.mem_singleton.1 last]
        exact Nat.mod_lt n (by decide)

theorem ofDigits_append_singleton (ds : List Nat) (d : Nat) :
    ofDigits (ds ++ [d]) = 10 * ofDigits ds + d := by
  rw [ofDigits, List.foldl_append]
  rfl

theorem ofDigits_append_zeros (ds : List Nat) (k : Nat) :
    ofDigits (ds ++ List.replicate k 0) = ofDigits ds * tenPow k := by
  induction k with
  | zero => simp
  | succ k ih =>
    rw [List.replicate_succ', ← List.append_assoc, ofDigits_append_singleton, ih, tenPow_succ]
    rw [Nat.add_zero, Nat.mul_comm 10, Nat.mul_assoc]

/-- As many digits denote less than that power of ten. -/
theorem ofDigits_lt {ds : List Nat} (small : ∀ d ∈ ds, d < 10) :
    ofDigits ds < tenPow ds.length := by
  induction ds using List.reverseRecOn with
  | nil => decide
  | append_singleton ds d ih =>
    obtain ⟨before, last⟩ := List.forall_mem_append.1 small
    have digit : d < 10 := last d List.mem_cons_self
    have below := ih before
    rw [ofDigits_append_singleton, List.length_append, List.length_singleton, tenPow_succ]
    omega

theorem ofDigits_digits (n : Nat) : ofDigits (digits n) = n := by
  induction n using Nat.strongRecOn with
  | _ n ih =>
    by_cases small : n < 10
    · rw [digits_of_lt small]
      simp [ofDigits]
    · rw [digits_of_ge (by omega), ofDigits_append_singleton, ih (n / 10) (by omega)]
      omega

/-- Only zero has a leading zero, and it has no other digit. -/
theorem eq_nil_of_digits_eq_zero_cons {n : Nat} {ds : List Nat} (zero : digits n = 0 :: ds) :
    ds = [] := by
  induction n using Nat.strongRecOn generalizing ds with
  | _ n ih =>
    by_cases small : n < 10
    · rw [digits_of_lt small] at zero
      exact (List.cons.inj zero).2.symm
    · obtain ⟨d, front, more⟩ := List.exists_cons_of_ne_nil (digits_ne_nil (n / 10))
      rw [digits_of_ge (by omega), more, List.cons_append] at zero
      have first : digits (n / 10) = 0 :: front := by rw [more, (List.cons.inj zero).1]
      rw [ih (n / 10) (by omega) first] at first
      have value := ofDigits_digits (n / 10)
      rw [first, ofDigits, List.foldl_cons, List.foldl_nil] at value
      omega

theorem length_digits_le {n k : Nat} (small : n < tenPow (k + 1)) : (digits n).length ≤ k + 1 := by
  induction k generalizing n with
  | zero =>
    have one : n < 10 := small
    rw [digits_of_lt one]
    exact Nat.le_refl 1
  | succ k ih =>
    by_cases one : n < 10
    · rw [digits_of_lt one]
      exact Nat.succ_le_succ (Nat.zero_le _)
    · rw [tenPow_succ] at small
      have front := ih (n := n / 10) (by omega)
      rw [digits_of_ge (by omega), List.length_append]
      exact Nat.succ_le_succ front

/-! ## Padded numerals -/

/-- The digits of a number, with zeros in front up to the given width. -/
def paddedDigits (width n : Nat) : List Nat :=
  List.replicate (width - (digits n).length) 0 ++ digits n

theorem paddedNumeral_eq (width n : Nat) :
    paddedNumeral width n = (paddedDigits width n).map digitChar := by
  rw [paddedNumeral, paddedDigits, List.map_append, List.map_replicate, numeral, List.length_map]
  rfl

theorem paddedDigits_lt (width n : Nat) : ∀ d ∈ paddedDigits width n, d < 10 := by
  intro d member
  rcases List.mem_append.1 member with zero | digit
  · rw [List.eq_of_mem_replicate zero]
    decide
  · exact digits_lt n d digit

theorem ofDigits_paddedDigits (width n : Nat) : ofDigits (paddedDigits width n) = n := by
  have zeros : ∀ k, (List.replicate k 0).foldl (fun n d => 10 * n + d) 0 = 0 := by
    intro k
    induction k with
    | zero => rfl
    | succ k ih => exact ih
  rw [paddedDigits, ofDigits, List.foldl_append, zeros]
  exact ofDigits_digits n

theorem le_length_paddedDigits (width n : Nat) : width ≤ (paddedDigits width n).length := by
  rw [paddedDigits, List.length_append, List.length_replicate]
  omega

theorem length_paddedDigits {n k : Nat} (small : n < tenPow (k + 1)) :
    (paddedDigits (k + 1) n).length = k + 1 := by
  have fits := length_digits_le small
  rw [paddedDigits, List.length_append, List.length_replicate]
  omega

theorem paddedDigits_ne_nil (width n : Nat) : paddedDigits width n ≠ [] := by
  simp [paddedDigits, digits_ne_nil]

theorem paddedNumeral_ne_nil (width n : Nat) : paddedNumeral width n ≠ [] := by
  simp [paddedNumeral, numeral_ne_nil]

/-! ## Runs of digits -/

/-- No digit stands at the front. -/
def NoDigit (cs : List Char) : Prop := ∀ c rest, cs = c :: rest → digit? c = none

theorem noDigit_nil : NoDigit [] := by
  intro c rest starts
  cases starts

theorem noDigit_cons {c : Char} (other : digit? c = none) (cs : List Char) : NoDigit (c :: cs) := by
  rintro c' rest starts
  cases starts
  exact other

theorem takeDigits_of_noDigit {cs : List Char} (stop : NoDigit cs) (limit : Nat) :
    takeDigits limit cs = ([], cs) := by
  cases limit with
  | zero => rfl
  | succ limit =>
    cases cs with
    | nil => rfl
    | cons c cs => simp only [takeDigits, stop c cs rfl]

/-- A run of digits is taken whole when the limit is reached with it or no digit follows. -/
theorem takeDigits_map_digitChar {ds : List Nat} (small : ∀ d ∈ ds, d < 10) {limit : Nat}
    (fits : ds.length ≤ limit) {rest : List Char} (stop : ds.length = limit ∨ NoDigit rest) :
    takeDigits limit (ds.map digitChar ++ rest) = (ds, rest) := by
  induction ds generalizing limit with
  | nil =>
    rcases stop with reached | stop
    · obtain rfl := reached
      rfl
    · exact takeDigits_of_noDigit stop limit
  | cons d ds ih =>
    obtain ⟨head, tail⟩ := List.forall_mem_cons.1 small
    cases limit with
    | zero => cases fits
    | succ limit =>
      have onward : ds.length = limit ∨ NoDigit rest := stop.imp_left Nat.succ.inj
      simp only [List.map_cons, List.cons_append, takeDigits, digit?_digitChar head,
        ih tail (Nat.le_of_succ_le_succ fits) onward]

theorem takeAllDigits_map_digitChar {ds : List Nat} (small : ∀ d ∈ ds, d < 10) {rest : List Char}
    (stop : NoDigit rest) : takeAllDigits (ds.map digitChar ++ rest) = (ds, rest) :=
  takeDigits_map_digitChar small (by simp) (Or.inr stop)

/-- What is taken is a run of digits, and it ends at the limit or where no digit follows. -/
theorem takeDigits_eq {limit : Nat} {cs rest : List Char} {ds : List Nat}
    (taken : takeDigits limit cs = (ds, rest)) :
    cs = ds.map digitChar ++ rest ∧ (∀ d ∈ ds, d < 10) ∧ (ds.length = limit ∨ NoDigit rest) := by
  induction limit generalizing cs ds with
  | zero =>
    cases taken
    exact ⟨rfl, by simp, Or.inl rfl⟩
  | succ limit ih =>
    cases cs with
    | nil =>
      cases taken
      exact ⟨rfl, by simp, Or.inr noDigit_nil⟩
    | cons c cs =>
      rw [takeDigits] at taken
      split at taken
      · rename_i d digit
        cases taken
        obtain ⟨small, rfl⟩ := digit?_eq_some digit
        obtain ⟨parts, others, stop⟩ := ih rfl
        refine ⟨by rw [List.map_cons, List.cons_append, ← parts],
          List.forall_mem_cons.2 ⟨small, others⟩, stop.imp_left (congrArg Nat.succ)⟩
      · rename_i other
        cases taken
        exact ⟨rfl, by simp, Or.inr (noDigit_cons other cs)⟩

theorem takeAllDigits_eq {cs rest : List Char} {ds : List Nat}
    (taken : takeAllDigits cs = (ds, rest)) :
    cs = ds.map digitChar ++ rest ∧ (∀ d ∈ ds, d < 10) ∧ NoDigit rest := by
  obtain ⟨parts, small, stop⟩ := takeDigits_eq taken
  refine ⟨parts, small, stop.elim (fun whole => ?_) id⟩
  have none_left : rest = [] := by
    have lengths := congrArg List.length parts
    rw [List.length_append, List.length_map, whole] at lengths
    exact List.eq_nil_of_length_eq_zero (by omega)
  rw [none_left]
  exact noDigit_nil

theorem natural?_numeral (n : Nat) : natural? (numeral n) = some n := by
  have taken := takeAllDigits_map_digitChar (digits_lt n) noDigit_nil
  rw [List.append_nil, ← numeral] at taken
  obtain ⟨d, ds, found⟩ := List.exists_cons_of_ne_nil (digits_ne_nil n)
  rw [natural?, taken, found]
  dsimp only
  rw [← found, ofDigits_digits]

/-! ## Characters of numerals -/

/-- No blank stands among the characters. -/
def Solid (cs : List Char) : Prop := ∀ c ∈ cs, isBlank c = false

theorem trimChars_eq_self {cs : List Char} (solid : Solid cs) : trimChars cs = cs := by
  have kept : ∀ ds, Solid ds → dropBlanks ds = ds := by
    intro ds solid
    cases ds with
    | nil => rfl
    | cons c ds => exact dropBlanks_of_head (solid c List.mem_cons_self)
  rw [trimChars, kept cs solid, kept _ fun c member => solid c (List.mem_reverse.1 member),
    List.reverse_reverse]

/-- A text stands in another one, with nothing but blanks around it. -/
def Padded (cs raw : List Char) : Prop :=
  ∃ front back, raw = front ++ cs ++ back ∧ (∀ c ∈ front, isBlank c = true) ∧
    ∀ c ∈ back, isBlank c = true

theorem padded_trimChars (raw : List Char) : Padded (trimChars raw) raw := by
  have blank (ds : List Char) : ∀ c ∈ ds.takeWhile isBlank, isBlank c = true :=
    fun c member => List.all_eq_true.1 List.all_takeWhile c member
  have behind : dropBlanks raw =
      trimChars raw ++ ((dropBlanks raw).reverse.takeWhile isBlank).reverse := by
    have whole := List.takeWhile_append_dropWhile (p := isBlank) (l := (dropBlanks raw).reverse)
    rw [trimChars, ← List.reverse_append, dropBlanks.eq_def (dropBlanks raw).reverse, whole,
      List.reverse_reverse]
  refine ⟨raw.takeWhile isBlank, ((dropBlanks raw).reverse.takeWhile isBlank).reverse, ?_,
    blank raw, fun c member => ?_⟩
  · rw [List.append_assoc, ← behind, dropBlanks, List.takeWhile_append_dropWhile]
  · exact blank _ c (List.mem_reverse.1 member)

/-- What is left without the blanks at either end of a text is what stands between them. -/
theorem padded_iff {cs raw : List Char} (solid : Solid cs) :
    Padded cs raw ↔ trimChars raw = cs := by
  constructor
  · rintro ⟨front, back, rfl, blankFront, blankBack⟩
    have shortened : dropBlanks (front ++ cs ++ back) = dropBlanks (cs ++ back) := by
      rw [dropBlanks, List.append_assoc, List.dropWhile_append_of_pos blankFront, dropBlanks]
    cases cs with
    | nil =>
      have nothing : dropBlanks (back ++ []) = [] := List.dropWhile_append_of_pos blankBack
      rw [List.append_nil] at nothing
      rw [trimChars, shortened, List.nil_append, nothing]
      rfl
    | cons c cs =>
      have kept : dropBlanks (c :: cs ++ back) = c :: cs ++ back :=
        dropBlanks_of_head (solid c List.mem_cons_self)
      have blanks : ∀ x ∈ back.reverse, isBlank x = true := by
        intro x member
        exact blankBack x (List.mem_reverse.1 member)
      have cut : dropBlanks (c :: cs ++ back).reverse = dropBlanks (c :: cs).reverse := by
        rw [dropBlanks, List.reverse_append, List.dropWhile_append_of_pos blanks, dropBlanks]
      have whole := trimChars_eq_self solid
      rw [trimChars, dropBlanks_of_head (solid c List.mem_cons_self)] at whole
      rw [trimChars, shortened, kept, cut, whole]
  · rintro rfl
    exact padded_trimChars raw

theorem solid_nil : Solid [] := fun _ member => absurd member List.not_mem_nil

/-- The characters of a fixed word are looked through one by one. -/
theorem solid_of_all {cs : List Char} (all : (cs.all fun c => !isBlank c) = true) : Solid cs := by
  intro c member
  have solid := List.all_eq_true.1 all c member
  rwa [Bool.not_eq_true'] at solid

theorem solid_append {cs ds : List Char} : Solid (cs ++ ds) ↔ Solid cs ∧ Solid ds :=
  List.forall_mem_append

theorem solid_cons {c : Char} {cs : List Char} : Solid (c :: cs) ↔ isBlank c = false ∧ Solid cs :=
  List.forall_mem_cons

theorem solid_map_digitChar {ds : List Nat} (small : ∀ d ∈ ds, d < 10) :
    Solid (ds.map digitChar) := by
  intro c member
  obtain ⟨d, digit, rfl⟩ := List.mem_map.1 member
  exact isBlank_digitChar (small d digit)

theorem solid_numeral (n : Nat) : Solid (numeral n) := solid_map_digitChar (digits_lt n)

theorem solid_paddedNumeral (width n : Nat) : Solid (paddedNumeral width n) := by
  rw [paddedNumeral_eq]
  exact solid_map_digitChar (paddedDigits_lt width n)

theorem solid_signedNumeral (n : Int) : Solid (signedNumeral n) := by
  rw [signedNumeral]
  split
  · exact solid_cons.2 ⟨by decide, solid_numeral _⟩
  · exact solid_numeral _

/-- The first character of any text of digits is a digit. -/
theorem map_digitChar_eq_cons {ds : List Nat} (some_digit : ds ≠ []) (small : ∀ d ∈ ds, d < 10) :
    ∃ d < 10, ∃ cs, ds.map digitChar = digitChar d :: cs := by
  cases ds with
  | nil => exact absurd rfl some_digit
  | cons d ds => exact ⟨d, small d List.mem_cons_self, ds.map digitChar, rfl⟩

theorem numeral_eq_cons (n : Nat) : ∃ d < 10, ∃ cs, numeral n = digitChar d :: cs :=
  map_digitChar_eq_cons (digits_ne_nil n) (digits_lt n)

theorem paddedNumeral_eq_cons (width n : Nat) :
    ∃ d < 10, ∃ cs, paddedNumeral width n = digitChar d :: cs := by
  rw [paddedNumeral_eq]
  exact map_digitChar_eq_cons (paddedDigits_ne_nil width n) (paddedDigits_lt width n)

end RowQuery.Text

namespace RowQuery.Integer
open Text

/-! ## Integers -/

theorem readNat?_numeral (n : Nat) : readNat? (numeral n) = some n := by
  obtain ⟨d, small, cs, starts⟩ := numeral_eq_cons n
  have read := natural?_numeral n
  rw [starts] at read ⊢
  rw [readNat?, read]
  intro _ plus
  exact digitChar_ne small rfl (List.cons.inj plus).1

theorem read?_signedNumeral (n : Int) : read? (signedNumeral n) = some n := by
  unfold signedNumeral
  split
  · have value : -(n.natAbs : Int) = n := by omega
    rw [read?, natural?_numeral]
    exact congrArg some value
  · have value : (n.natAbs : Int) = n := by omega
    obtain ⟨d, small, cs, starts⟩ := numeral_eq_cons n.natAbs
    have read := readNat?_numeral n.natAbs
    rw [starts] at read ⊢
    rw [read?, read]
    · exact congrArg some value
    · intro _ minus
      exact digitChar_ne small rfl (List.cons.inj minus).1

theorem readSigned?_signedNumeral {bits : Nat} {n : Int} (low : -(twoPow bits : Int) ≤ n)
    (high : n < twoPow bits) : readSigned? bits (signedNumeral n) = some n := by
  rw [readSigned?, read?_signedNumeral]
  simp [low, high]

theorem readUnsigned?_numeral {bits n : Nat} (high : n < twoPow bits) :
    readUnsigned? bits (numeral n) = some n := by
  rw [readUnsigned?, readNat?_numeral]
  simp [high]

end RowQuery.Integer
