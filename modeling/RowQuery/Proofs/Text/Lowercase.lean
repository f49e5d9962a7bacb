import Mathlib.Data.List.Basic
import RowQuery.Text.Basic
import RowQuery.Text.Case

/-!
# What small forms keep

The small form of a text is put together from the small forms of its characters, each of one
character or more. A class of characters that casing neither leaves nor enters, such as the blanks
or a single mark of punctuation, so stands in the small form where it stands in the text: at the
front, at the end, or somewhere.
-/
namespace RowQuery.Text

namespace CaseTable

/-- No run maps the code point, and none maps another one to it. -/
def apart (runs : List Run) (n : Nat) : Bool :=
  runs.all fun r =>
    (n < r.first || r.last < n) &&
      ((n : Int) < r.first + r.offset || (r.last + r.offset : Int) < n)

theorem image_eq_iff {runs : List Run} {n : Nat} (positive : 0 < n)
    (outside : apart runs n = true) (m : Nat) : image runs m = n ↔ m = n := by
  cases found : runs.find? (m ≤ ·.last) with
  | none => simp only [image, found]
  | some r =>
    have clear := List.all_eq_true.1 outside r (List.mem_of_find?_eq_some found)
    simp only [Bool.and_eq_true, Bool.or_eq_true, decide_eq_true_eq] at clear
    simp only [image, found]
    split
    · rename_i held
      simp only [Run.holds, Bool.and_eq_true, decide_eq_true_eq] at held
      omega
    · rfl

end CaseTable

/-! ## Small forms of single characters -/

theorem toNat_ofNat {n : Nat} (valid : n.isValidChar) : (Char.ofNat n).toNat = n := by
  rw [Char.ofNat, dif_pos valid]
  rfl

/-- The small form of a character between others. -/
def smallForm (before : List Char) (c : Char) (after : List Char) : List Char :=
  if c = 'Σ' then [lowerSigma before after] else lowerChar c

theorem lowerAfter_cons (before : List Char) (c : Char) (rest : List Char) :
    lowerAfter before (c :: rest) = smallForm before c rest ++ lowerAfter (c :: before) rest := rfl

theorem smallForm_ne_nil (before : List Char) (c : Char) (after : List Char) :
    smallForm before c after ≠ [] := by
  unfold smallForm lowerChar
  split
  · exact List.cons_ne_nil _ _
  · split <;> exact List.cons_ne_nil _ _

theorem lowerAfter_ne_nil (before : List Char) (c : Char) (rest : List Char) :
    lowerAfter before (c :: rest) ≠ [] := by
  rw [lowerAfter_cons, Ne, List.append_eq_nil_iff]
  exact fun empty => smallForm_ne_nil before c rest empty.1

/-- Casing neither leaves nor enters the class. -/
def Kept (p : Char → Bool) : Prop :=
  ∀ before c after, ∀ x ∈ smallForm before c after, p x = p c

/-- A class is kept if its characters stand apart from all mappings, the special ones included. -/
theorem kept_of_apart {p : Char → Bool}
    (outside : ∀ c, p c = true → 0 < c.toNat ∧ CaseTable.apart CaseTable.smalls c.toNat = true)
    (special : ['Σ', 'σ', 'ς', 'İ', 'i', '\u0307'].any p = false) : Kept p := by
  have special : ∀ c ∈ ['Σ', 'σ', 'ς', 'İ', 'i', '\u0307'], p c = false := fun c member =>
    Bool.eq_false_iff.2 (List.any_eq_false.1 special c member)
  have mapped : ∀ c, p (Char.ofNat (CaseTable.image CaseTable.smalls c.toNat)) = p c := by
    intro c
    rw [Bool.eq_iff_iff]
    constructor
    · intro member
      obtain ⟨positive, clear⟩ := outside _ member
      by_cases valid : (CaseTable.image CaseTable.smalls c.toNat).isValidChar
      · rw [toNat_ofNat valid] at positive clear
        rwa [← (CaseTable.image_eq_iff positive clear _).1 rfl, Char.ofNat_toNat] at member
      · rw [Char.ofNat, dif_neg valid] at positive
        exact absurd positive (Nat.lt_irrefl 0)
    · intro member
      obtain ⟨positive, clear⟩ := outside c member
      rwa [(CaseTable.image_eq_iff positive clear _).2 rfl, Char.ofNat_toNat]
  intro before c after x small
  unfold smallForm at small
  split at small
  · rename_i sigma
    have form : x = 'ς' ∨ x = 'σ' := by
      rw [List.mem_singleton.1 small, lowerSigma]
      split
      · exact Or.inl rfl
      · exact Or.inr rfl
    rw [sigma, special 'Σ' (by decide)]
    rcases form with rfl | rfl <;> exact special _ (by decide)
  · unfold lowerChar at small
    split at small
    · rename_i dotted
      rw [dotted, special 'İ' (by decide)]
      rcases List.mem_cons.1 small with rfl | small
      · exact special _ (by decide)
      · exact special x (by rw [List.mem_singleton.1 small]; decide)
    · rw [List.mem_singleton.1 small, mapped c]

/-! ## Small forms of texts -/

variable {p : Char → Bool}

theorem Kept.any_lowerAfter (kept : Kept p) (before cs : List Char) :
    (lowerAfter before cs).any p = cs.any p := by
  induction cs generalizing before with
  | nil => rfl
  | cons c rest ih =>
    have own : (smallForm before c rest).any p = p c := by
      cases form : smallForm before c rest with
      | nil => exact absurd form (smallForm_ne_nil _ _ _)
      | cons x xs =>
        have all := kept before c rest
        rw [form] at all
        rw [Bool.eq_iff_iff, List.any_eq_true]
        constructor
        · rintro ⟨y, member, holds⟩
          rwa [← all y member]
        · intro holds
          exact ⟨x, List.mem_cons_self, (all x List.mem_cons_self).trans holds⟩
    rw [lowerAfter_cons, List.any_append, own, ih, List.any_cons]

theorem Kept.any_head?_lowerAfter (kept : Kept p) (before cs : List Char) :
    (lowerAfter before cs).head?.any p = cs.head?.any p := by
  cases cs with
  | nil => rfl
  | cons c rest =>
    obtain ⟨x, xs, form⟩ := List.exists_cons_of_ne_nil (smallForm_ne_nil before c rest)
    have own := kept before c rest x (by rw [form]; exact List.mem_cons_self)
    rw [lowerAfter_cons, form]
    exact own

theorem Kept.any_getLast?_lowerAfter (kept : Kept p) (before cs : List Char) :
    (lowerAfter before cs).getLast?.any p = cs.getLast?.any p := by
  induction cs generalizing before with
  | nil => rfl
  | cons c rest ih =>
    rw [lowerAfter_cons]
    cases rest with
    | nil =>
      rw [lowerAfter, List.append_nil, List.getLast?_eq_some_getLast (smallForm_ne_nil _ _ _)]
      exact kept before c [] _ (List.getLast_mem _)
    | cons d others =>
      rw [List.getLast?_append_of_ne_nil _ (lowerAfter_ne_nil _ d others), ih,
        List.getLast?_cons_cons]

/-! ## Blanks and other marks -/

/-- The characters that are white space, by their numbers. -/
theorem toNat_mem_of_isBlank {c : Char} (blank : isBlank c = true) :
    c.toNat ∈ List.range' 0x9 5 ++ List.range' 0x2000 11 ++
      [0x20, 0x85, 0xA0, 0x1680, 0x2028, 0x2029, 0x202F, 0x205F, 0x3000] := by
  simp only [isBlank, Bool.or_eq_true, Bool.and_eq_true, decide_eq_true_eq, beq_iff_eq] at blank
  simp only [List.mem_append, List.mem_range'_1, List.mem_cons]
  omega

theorem kept_isBlank : Kept isBlank := by
  have clear : ∀ n ∈ List.range' 0x9 5 ++ List.range' 0x2000 11 ++
      [0x20, 0x85, 0xA0, 0x1680, 0x2028, 0x2029, 0x202F, 0x205F, 0x3000],
      0 < n ∧ CaseTable.apart CaseTable.smalls n = true := by decide +kernel
  exact kept_of_apart (fun c blank => clear _ (toNat_mem_of_isBlank blank)) (by decide)

theorem kept_point : Kept (· == '.') := by
  refine kept_of_apart (fun c point => ?_) (by decide)
  rw [beq_iff_eq.1 point]
  decide +kernel

/-! ## Trimmed texts -/

/-- No blank stands at either end. -/
structure Trimmed (cs : List Char) : Prop where
  front : cs.head?.any isBlank = false
  back : cs.getLast?.any isBlank = false

theorem any_head?_dropBlanks (cs : List Char) : (dropBlanks cs).head?.any isBlank = false := by
  have first := List.head?_dropWhile_not isBlank cs
  rw [dropBlanks]
  cases found : (cs.dropWhile isBlank).head? with
  | none => rfl
  | some c =>
    rw [found] at first
    exact first

theorem dropBlanks_eq_self {cs : List Char} (front : cs.head?.any isBlank = false) :
    dropBlanks cs = cs := by
  cases cs with
  | nil => rfl
  | cons c cs => exact dropBlanks_of_head front

theorem Trimmed.trimChars_eq {cs : List Char} (trimmed : Trimmed cs) : trimChars cs = cs := by
  have back : cs.reverse.head?.any isBlank = false := by
    rw [List.head?_reverse]
    exact trimmed.back
  rw [trimChars, dropBlanks_eq_self trimmed.front, dropBlanks_eq_self back, List.reverse_reverse]

theorem trimmed_trimChars (cs : List Char) : Trimmed (trimChars cs) := by
  constructor
  · -- What is dropped at the back leaves the character at the front where it is.
    have front := any_head?_dropBlanks cs
    obtain ⟨dropped, parts⟩ := List.dropWhile_suffix (l := (dropBlanks cs).reverse) isBlank
    rw [trimChars, List.head?_reverse]
    change (List.dropWhile isBlank (dropBlanks cs).reverse).getLast?.any isBlank = false
    rw [← List.getLast?_reverse, ← parts, List.getLast?_append] at front
    cases last : (List.dropWhile isBlank (dropBlanks cs).reverse).getLast? with
    | none => rfl
    | some c => rwa [last] at front
  · rw [trimChars, List.getLast?_reverse]
    exact any_head?_dropBlanks _

/-- Casing neither trims a text nor puts blanks at its ends. -/
theorem trimmed_lowerChars (cs : List Char) : Trimmed (lowerChars cs) ↔ Trimmed cs := by
  have front := kept_isBlank.any_head?_lowerAfter [] cs
  have back := kept_isBlank.any_getLast?_lowerAfter [] cs
  rw [← lowerChars] at front back
  constructor
  · intro trimmed
    exact ⟨front.symm.trans trimmed.front, back.symm.trans trimmed.back⟩
  · intro trimmed
    exact ⟨front.trans trimmed.front, back.trans trimmed.back⟩

theorem point_mem_lowerChars (cs : List Char) : '.' ∈ lowerChars cs ↔ '.' ∈ cs := by
  have same := kept_point.any_lowerAfter [] cs
  rw [Bool.eq_iff_iff, ← lowerChars] at same
  simpa using same

end RowQuery.Text
