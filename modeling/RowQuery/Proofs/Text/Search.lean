import RowQuery.Text.Basic

/-!
# What searching finds

The three ways of searching in a text, as relations between lists of characters, and the pieces
between the occurrences of a character.
-/
namespace RowQuery.Text

theorem startsWith_iff (needle cs : List Char) : startsWith needle cs = true ↔ needle <+: cs :=
  List.isPrefixOf_iff_prefix

theorem endsWith_iff (needle cs : List Char) : endsWith needle cs = true ↔ needle <:+ cs :=
  List.isSuffixOf_iff_suffix

theorem contains_iff (needle cs : List Char) : contains needle cs = true ↔ needle <:+: cs := by
  induction cs with
  | nil => rw [contains, List.isEmpty_iff, List.infix_nil]
  | cons c cs ih => rw [contains, Bool.or_eq_true, startsWith_iff, ih, List.infix_cons_iff]

/-- The pieces of a text are those of the list of its characters. -/
theorem split_eq_splitOn (separator : Char) (cs : List Char) :
    split separator cs = cs.splitOn separator := by
  induction cs with
  | nil => rfl
  | cons c cs ih =>
    rw [split, ih, List.splitOn_cons_eq_if_modifyHead]
    by_cases same : c = separator
    · simp [same]
    · obtain ⟨piece, pieces, found⟩ := List.exists_cons_of_ne_nil (List.splitOn_ne_nil separator cs)
      simp [same, found]

/-- No piece holds the character at which the text is split. -/
theorem not_mem_of_mem_split {separator : Char} {cs piece : List Char}
    (member : piece ∈ split separator cs) : separator ∉ piece := by
  induction cs generalizing piece with
  | nil => simp_all [split]
  | cons c cs ih =>
    rw [split] at member
    split at member
    · rcases List.mem_cons.1 member with rfl | later
      · exact List.not_mem_nil
      · exact ih later
    · rename_i apart
      cases parts : split separator cs with
      | nil =>
        rw [parts, List.mem_singleton] at member
        simp [member, Ne.symm apart]
      | cons first others =>
        rw [parts] at ih member
        rcases List.mem_cons.1 member with rfl | later
        · simp [Ne.symm apart, ih List.mem_cons_self]
        · exact ih (List.mem_cons_of_mem _ later)

end RowQuery.Text
