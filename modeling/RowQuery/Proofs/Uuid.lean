import RowQuery.Uuid
import RowQuery.Proofs.Text.Numeral

/-!
# Identifiers read back

The hyphens of the grouped form stand where reading expects them, so that what lies between them is
put together again, and the thirty-two digits give the number they were taken from. The grouped form
is longer than thirty-two characters: it is never taken for digits without hyphens.
-/
namespace RowQuery.Uuid
open Text

/-! ## Hexadecimal digits -/

theorem length_hexDigits (count n : Nat) : (hexDigits count n).length = count := by
  induction count generalizing n with
  | zero => rfl
  | succ count ih => rw [hexDigits, List.length_append, ih, List.length_singleton]

theorem hexDigits_lt (count n : Nat) : ∀ d ∈ hexDigits count n, d < 16 := by
  induction count generalizing n with
  | zero =>
    intro d member
    cases member
  | succ count ih =>
    intro d member
    rcases List.mem_append.1 member with earlier | last
    · exact ih (n / 16) d earlier
    · rw [List.mem_singleton.1 last]
      exact Nat.mod_lt n (by decide)

theorem ofHex_hexDigits {count n : Nat} (small : n < twoPow (4 * count)) :
    ofHex (hexDigits count n) = n := by
  induction count generalizing n with
  | zero =>
    have zero : n < 1 := small
    rw [Nat.lt_one_iff.1 zero]
    rfl
  | succ count ih =>
    have wider : twoPow (4 * (count + 1)) = twoPow (4 * count) * 2 * 2 * 2 * 2 := rfl
    have front := ih (n := n / 16) (by omega)
    rw [ofHex] at front
    rw [hexDigits, ofHex, List.foldl_append, front]
    show 16 * (n / 16) + n % 16 = n
    omega

theorem mapM_hexDigit? {ds : List Nat} (small : ∀ d ∈ ds, d < 16) :
    (ds.map hexChar).mapM hexDigit? = some ds := by
  induction ds with
  | nil => rfl
  | cons d ds ih =>
    obtain ⟨head, tail⟩ := List.forall_mem_cons.1 small
    simp [List.mapM_cons, hexDigit?_hexChar head, ih tail]

/-! ## Groups -/

theorem ungroup?_group {counts : List Nat} (some_group : counts ≠ []) {cs : List Char}
    (length : cs.length = counts.foldr (· + ·) 0) :
    ungroup? counts (group counts cs) = some cs := by
  induction counts generalizing cs with
  | nil => exact absurd rfl some_group
  | cons count counts ih =>
    cases counts with
    | nil =>
      rw [List.foldr_cons, List.foldr_nil, Nat.add_zero] at length
      rw [ungroup?, group, if_pos length]
    | cons next counts =>
      rw [List.foldr_cons] at length
      have front : (cs.take count).length = count := by
        rw [List.length_take]
        omega
      have back : (cs.drop count).length = (next :: counts).foldr (· + ·) 0 := by
        rw [List.length_drop]
        omega
      rw [ungroup?, group, List.drop_left' front, List.take_left' front]
      · simp only [ih (List.cons_ne_nil next counts) back, Option.map_some, List.take_append_drop]
      · simp
      · simp

theorem length_group {counts : List Nat} (some_group : counts ≠ []) (cs : List Char) :
    (group counts cs).length + 1 = cs.length + counts.length := by
  induction counts generalizing cs with
  | nil => exact absurd rfl some_group
  | cons count counts ih =>
    cases counts with
    | nil => rfl
    | cons next counts =>
      have back := ih (List.cons_ne_nil next counts) (cs.drop count)
      rw [List.length_drop] at back
      rw [group, List.length_append, List.length_take, List.length_cons, List.length_cons]
      · omega
      · simp

theorem solid_group (counts : List Nat) {cs : List Char} (solid : Solid cs) :
    Solid (group counts cs) := by
  induction counts generalizing cs with
  | nil => exact solid_nil
  | cons count counts ih =>
    cases counts with
    | nil => exact solid
    | cons next counts =>
      rw [group]
      · have front : Solid (cs.take count) := fun c member => solid c (List.mem_of_mem_take member)
        have back : Solid (cs.drop count) := fun c member => solid c (List.mem_of_mem_drop member)
        exact solid_append.2 ⟨front, solid_cons.2 ⟨by decide, ih back⟩⟩
      · simp

/-! ## The grouped form -/

/-- The thirty-two digits of an identifier. -/
def plainText (u : Uuid) : List Char := (hexDigits 32 u.value.val).map hexChar

theorem length_plainText (u : Uuid) : u.plainText.length = 32 := by
  rw [plainText, List.length_map, length_hexDigits]

theorem solid_write (u : Uuid) : Solid u.write := by
  refine solid_group groups ?_
  intro c member
  obtain ⟨d, digit, rfl⟩ := List.mem_map.1 member
  exact isBlank_hexChar (hexDigits_lt 32 _ d digit)

theorem readPlain?_plainText (u : Uuid) : readPlain? u.plainText = some u := by
  have value : ofHex (hexDigits 32 u.value.val) = u.value.val := ofHex_hexDigits u.value.isLt
  rw [readPlain?, if_pos u.length_plainText, plainText, mapM_hexDigit? (hexDigits_lt 32 _)]
  simp [value]

theorem readGrouped?_write (u : Uuid) : readGrouped? u.write = some u := by
  have joined : ungroup? groups u.write = some u.plainText :=
    ungroup?_group (by decide) u.length_plainText
  rw [readGrouped?, joined, Option.bind_some, readPlain?_plainText]

theorem read?_write (u : Uuid) : read? u.write = some u := by
  have length : u.write.length + 1 = u.plainText.length + groups.length :=
    length_group (by decide) u.plainText
  rw [length_plainText] at length
  have longer : u.write.length ≠ 32 := by
    intro short
    rw [short] at length
    exact absurd length (by decide)
  unfold read?
  rw [readPlain?, if_neg longer, readGrouped?_write, Option.none_or, Option.some_or]

end RowQuery.Uuid
