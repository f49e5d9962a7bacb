import Mathlib.Data.List.Forall2
import RowQuery.Proofs.Text.Lowercase

/-!
# Small forms across points

A text with points in it can be made small as a whole or piece by piece. The two differ at most in
sigmas: their form depends on the letters around them, and points are skipped when these are looked
for. Which sigmas differ is a matter of the text alone, and two texts whose pieces agree in their
small forms agree as a whole exactly if the same sigmas differ in both. Blanks next to a point stay
where they are either way.
-/
namespace RowQuery.Text

/-! ## Pieces -/

/-- The characters before the first point. -/
def upToPoint (cs : List Char) : List Char := cs.takeWhile (· != '.')

theorem exists_splitOn (cs : List Char) : ∃ first others, cs.splitOn '.' = first :: others :=
  List.exists_cons_of_ne_nil (List.splitOn_ne_nil '.' cs)

theorem splitOn_point (cs : List Char) : ('.' :: cs).splitOn '.' = [] :: cs.splitOn '.' := by
  rw [List.splitOn_cons_eq_if_modifyHead, if_pos (by simp)]

/-- Characters without a point among them belong to the first piece of what follows. -/
theorem splitOn_append {xs cs first : List Char} {others : List (List Char)} (whole : '.' ∉ xs)
    (pieces : cs.splitOn '.' = first :: others) :
    (xs ++ cs).splitOn '.' = (xs ++ first) :: others := by
  induction xs with
  | nil => exact pieces
  | cons x xs ih =>
    rw [List.mem_cons, not_or] at whole
    rw [List.cons_append, List.splitOn_cons_eq_if_modifyHead,
      if_neg (by simpa using Ne.symm whole.1), ih whole.2]
    rfl

theorem splitOn_cons {c : Char} (apart : c ≠ '.') {cs first : List Char}
    {others : List (List Char)} (pieces : cs.splitOn '.' = first :: others) :
    (c :: cs).splitOn '.' = (c :: first) :: others := by
  have whole : '.' ∉ [c] := by simpa using Ne.symm apart
  exact splitOn_append whole pieces

/-- The first piece of a text is what stands before the first point. -/
theorem upToPoint_of_splitOn {cs first : List Char} {others : List (List Char)}
    (pieces : cs.splitOn '.' = first :: others) : upToPoint cs = first := by
  induction cs generalizing first others with
  | nil =>
    cases pieces
    rfl
  | cons c cs ih =>
    by_cases point : c = '.'
    · subst point
      rw [splitOn_point] at pieces
      cases pieces
      rfl
    · obtain ⟨piece, rest, found⟩ := exists_splitOn cs
      cases (splitOn_cons point found).symm.trans pieces
      rw [← ih found, upToPoint, upToPoint, List.takeWhile_cons_of_pos (by simpa using point)]

theorem upToPoint_of_no_point {cs : List Char} (whole : '.' ∉ cs) : upToPoint cs = cs := by
  have pieces := splitOn_append whole (List.splitOn_nil '.')
  rw [List.append_nil] at pieces
  exact upToPoint_of_splitOn pieces

/-! ## Blanks at points -/

theorem smallForm_point (before after : List Char) : smallForm before '.' after = ['.'] := by
  have small : lowerChar '.' = ['.'] := by decide +kernel
  exact small

theorem point_not_mem_smallForm {c : Char} (apart : c ≠ '.') (before after : List Char) :
    '.' ∉ smallForm before c after := by
  intro member
  have same : ('.' == '.') = (c == '.') := kept_point before c after '.' member
  exact apart (beq_iff_eq.1 same.symm)

/-- Whether blanks stand at the ends of a piece is the same in both. -/
structure EndsAlike (us vs : List Char) : Prop where
  front : vs.head?.any isBlank = us.head?.any isBlank
  back : vs.getLast?.any isBlank = us.getLast?.any isBlank
  empty : vs = [] ↔ us = []

theorem EndsAlike.cons {us vs : List Char} (alike : EndsAlike us vs) (before : List Char) (c : Char)
    (after : List Char) : EndsAlike (c :: us) (smallForm before c after ++ vs) := by
  have kept := kept_isBlank before c after
  obtain ⟨x, xs, form⟩ := List.exists_cons_of_ne_nil (smallForm_ne_nil before c after)
  constructor
  · rw [form]
    exact kept x (by rw [form]; exact List.mem_cons_self)
  · by_cases nothing : us = []
    · rw [nothing, alike.empty.2 nothing, List.append_nil,
        List.getLast?_eq_some_getLast (smallForm_ne_nil before c after)]
      exact kept _ (List.getLast_mem _)
    · have more : vs ≠ [] := fun none => nothing (alike.empty.1 none)
      rw [List.getLast?_append_of_ne_nil _ more, alike.back]
      obtain ⟨u, us, rfl⟩ := List.exists_cons_of_ne_nil nothing
      rw [List.getLast?_cons_cons]
  · simp [form]

theorem EndsAlike.trimmed_iff {us vs : List Char} (alike : EndsAlike us vs) :
    Trimmed vs ↔ Trimmed us := by
  constructor
  · intro trimmed
    exact ⟨alike.front.symm.trans trimmed.front, alike.back.symm.trans trimmed.back⟩
  · intro trimmed
    exact ⟨alike.front.trans trimmed.front, alike.back.trans trimmed.back⟩

theorem splitOn_lowerAfter (before cs : List Char) :
    List.Forall₂ EndsAlike (cs.splitOn '.') ((lowerAfter before cs).splitOn '.') := by
  induction cs generalizing before with
  | nil => exact .cons ⟨rfl, rfl, Iff.rfl⟩ .nil
  | cons c rest ih =>
    rw [lowerAfter_cons]
    by_cases point : c = '.'
    · rw [point, smallForm_point, List.singleton_append, splitOn_point, splitOn_point]
      exact .cons ⟨rfl, rfl, Iff.rfl⟩ (ih _)
    · obtain ⟨first, others, pieces⟩ := exists_splitOn rest
      obtain ⟨first', others', pieces'⟩ := exists_splitOn (lowerAfter (c :: before) rest)
      have alike := ih (c :: before)
      rw [pieces, pieces', List.forall₂_cons] at alike
      rw [splitOn_cons point pieces,
        splitOn_append (point_not_mem_smallForm point before rest) pieces']
      exact .cons (alike.1.cons before c rest) alike.2

/-- No piece of the text has a blank at its ends. -/
def Unblanked (cs : List Char) : Prop := ∀ piece ∈ cs.splitOn '.', Trimmed piece

theorem unblanked_lowerChars (cs : List Char) : Unblanked (lowerChars cs) ↔ Unblanked cs := by
  have alike := splitOn_lowerAfter [] cs
  rw [← lowerChars] at alike
  unfold Unblanked
  generalize cs.splitOn '.' = pieces at alike
  generalize (lowerChars cs).splitOn '.' = pieces' at alike
  induction alike with
  | nil => simp
  | cons ends _ ih =>
    rw [List.forall_mem_cons, List.forall_mem_cons]
    exact and_congr ends.trimmed_iff ih

/-! ## Small forms piece by piece -/

/-- Small forms of the characters that follow `before`, each by what surrounds it in its piece. -/
def lowerWithin (before : List Char) : List Char → List Char
  | [] => []
  | c :: rest => smallForm (upToPoint before) c (upToPoint rest) ++ lowerWithin (c :: before) rest

theorem splitOn_lowerWithin {before cs first : List Char} {others : List (List Char)}
    (pieces : cs.splitOn '.' = first :: others) :
    (lowerWithin before cs).splitOn '.' =
      lowerAfter (upToPoint before) first :: others.map lowerChars := by
  induction cs generalizing before first others with
  | nil =>
    cases pieces
    rfl
  | cons c rest ih =>
    obtain ⟨piece, more, found⟩ := exists_splitOn rest
    rw [lowerWithin, upToPoint_of_splitOn found]
    by_cases point : c = '.'
    · subst point
      rw [splitOn_point, found] at pieces
      cases pieces
      rw [smallForm_point, List.singleton_append, splitOn_point, ih found]
      rfl
    · cases (splitOn_cons point found).symm.trans pieces
      have inside : upToPoint (c :: before) = c :: upToPoint before :=
        List.takeWhile_cons_of_pos (by simpa using point)
      rw [splitOn_append (point_not_mem_smallForm point _ _) (ih found), inside, lowerAfter_cons]

/-- A text is made small piece by piece. -/
theorem lowerWithin_eq (cs : List Char) :
    lowerWithin [] cs = ['.'].intercalate ((cs.splitOn '.').map lowerChars) := by
  obtain ⟨first, others, pieces⟩ := exists_splitOn cs
  have small : (lowerWithin [] cs).splitOn '.' = lowerChars first :: others.map lowerChars :=
    splitOn_lowerWithin pieces
  have whole : ['.'].intercalate ((lowerWithin [] cs).splitOn '.') = lowerWithin [] cs :=
    List.intercalate_splitOn '.'
  rw [← whole, small, pieces, List.map_cons]

/-! ## Sigmas at points -/

/-- For each character of the small form, whether it is a sigma that has one form in the whole text
and another one in its piece. -/
def sigmaChanges (before : List Char) : List Char → List Bool
  | [] => []
  | c :: rest =>
    (if c = 'Σ' then [lowerSigma before rest != lowerSigma (upToPoint before) (upToPoint rest)]
      else (lowerChar c).map fun _ => false) ++ sigmaChanges (c :: before) rest

/-- The other one of the two small forms of a sigma. -/
def otherSigma (c : Char) : Char := if c = 'ς' then 'σ' else 'ς'

theorem otherSigma_lowerSigma (before after before' after' : List Char) :
    (if lowerSigma before after != lowerSigma before' after' then
      otherSigma (lowerSigma before' after') else lowerSigma before' after') =
      lowerSigma before after := by
  unfold lowerSigma
  generalize (leadsToCased before && !leadsToCased after) = final
  generalize (leadsToCased before' && !leadsToCased after') = final'
  revert final final'
  decide

/-- Where the two small forms differ, a sigma has changed. -/
theorem zipWith_lowerAfter (before cs : List Char) :
    List.zipWith (· != ·) (lowerAfter before cs) (lowerWithin before cs) =
      sigmaChanges before cs := by
  induction cs generalizing before with
  | nil => rfl
  | cons c rest ih =>
    rw [lowerAfter_cons, lowerWithin, sigmaChanges, ← ih]
    unfold smallForm
    split
    · rfl
    · rw [List.zipWith_append rfl, List.zipWith_self]
      simp

/-- Where a sigma has changed, the whole text has the other form. -/
theorem zipWith_sigmaChanges (before cs : List Char) :
    List.zipWith (fun c changed => if changed then otherSigma c else c) (lowerWithin before cs)
      (sigmaChanges before cs) = lowerAfter before cs := by
  induction cs generalizing before with
  | nil => rfl
  | cons c rest ih =>
    rw [lowerAfter_cons, lowerWithin, sigmaChanges]
    unfold smallForm
    split
    · rw [List.singleton_append, List.singleton_append, List.singleton_append,
        List.zipWith_cons_cons, ih, otherSigma_lowerSigma]
    · rw [List.zipWith_append (by simp), ih, List.zipWith_map_right, List.zipWith_self]
      simp

/-- Texts that agree piece by piece agree as a whole exactly if the same sigmas change in both. -/
theorem lowerChars_eq_iff {cs ds : List Char} (same : lowerWithin [] cs = lowerWithin [] ds) :
    lowerChars cs = lowerChars ds ↔ sigmaChanges [] cs = sigmaChanges [] ds := by
  constructor
  · intro whole
    rw [← zipWith_lowerAfter, ← zipWith_lowerAfter, ← lowerChars, ← lowerChars, whole, same]
  · intro changes
    rw [lowerChars, lowerChars, ← zipWith_sigmaChanges, ← zipWith_sigmaChanges, changes, same]

/-- Without a capital sigma a text is made small piece by piece. -/
theorem lowerAfter_of_no_sigma {cs : List Char} (free : 'Σ' ∉ cs) (before : List Char) :
    lowerAfter before cs = lowerWithin before cs := by
  induction cs generalizing before with
  | nil => rfl
  | cons c rest ih =>
    rw [List.mem_cons, not_or] at free
    have form : ∀ left right, smallForm left c right = lowerChar c := by
      intro left right
      exact if_neg (Ne.symm free.1)
    rw [lowerAfter_cons, lowerWithin, form, form, ih free.2]

/-- A text of one piece is made small as a whole. -/
theorem lowerAfter_of_no_point {before cs : List Char} (left : '.' ∉ before) (right : '.' ∉ cs) :
    lowerAfter before cs = lowerWithin before cs := by
  induction cs generalizing before with
  | nil => rfl
  | cons c rest ih =>
    rw [List.mem_cons, not_or] at right
    have more : '.' ∉ c :: before := by
      rw [List.mem_cons, not_or]
      exact ⟨right.1, left⟩
    rw [lowerAfter_cons, lowerWithin, upToPoint_of_no_point left,
      upToPoint_of_no_point right.2, ih more right.2]

end RowQuery.Text
