import RowQuery.Sql.Clause
import RowQuery.Proofs.Text.Search

/-!
# Patterns

The patterns of LIKE, read item by item: a percent sign stands for any run of characters, an
underscore for any one character, and the escape character makes a literal of the one after it. An
escaped text is a pattern of literals alone, so that with percent signs around it a pattern matches
what contains, starts or ends with the text.

The rules themselves are the relation `Matches`; `likeMatches` decides it.
-/
namespace RowQuery.Sql

/-- The text matches the pattern, by the rules of LIKE with an escape character. There is no rule
for an escape character at the end of a pattern. -/
inductive Matches : (pattern text : List Char) → Prop where
  | done : Matches [] []
  | run {pattern text : List Char} (skipped : List Char) (rest : Matches pattern text) :
    Matches ('%' :: pattern) (skipped ++ text)
  | one {pattern text : List Char} (c : Char) (rest : Matches pattern text) :
    Matches ('_' :: pattern) (c :: text)
  | escaped {pattern text : List Char} (c : Char) (rest : Matches pattern text) :
    Matches (likeEscape :: c :: pattern) (c :: text)
  | plain {pattern text : List Char} {c : Char} (own : ¬ (c = '%' ∨ c = '_' ∨ c = likeEscape))
    (rest : Matches pattern text) : Matches (c :: pattern) (c :: text)

/-- Whether a pattern ends in an escape character that makes no literal, for want of a character
after it. -/
def endsInEscape : List Char → Bool
  | [] => false
  | [c] => c == likeEscape
  | c :: d :: cs => if c = likeEscape then endsInEscape cs else endsInEscape (d :: cs)

inductive PatternItem where
  | run
  | one
  | literal (c : Char)
  deriving DecidableEq, Repr

/-- The items of a pattern, where `escaped` says whether an escape character stands before it. A
pattern must not end in a lone escape character. -/
def patternItems? : (escaped : Bool) → List Char → Option (List PatternItem)
  | false, [] => some []
  | true, [] => none
  | true, c :: cs => (patternItems? false cs).map (.literal c :: ·)
  | false, c :: cs =>
    if c = likeEscape then patternItems? true cs
    else if c = '%' then (patternItems? false cs).map (.run :: ·)
    else if c = '_' then (patternItems? false cs).map (.one :: ·)
    else (patternItems? false cs).map (.literal c :: ·)

/-- Whether a test accepts what is left after leaving out some of the first characters. -/
def anySuffix (accepts : List Char → Bool) : List Char → Bool
  | [] => accepts []
  | c :: cs => accepts (c :: cs) || anySuffix accepts cs

/-- Whether the items match all the characters. -/
def matchItems : List PatternItem → List Char → Bool
  | [], cs => cs.isEmpty
  | .run :: items, cs => anySuffix (matchItems items) cs
  | .one :: _, [] => false
  | .one :: items, _ :: cs => matchItems items cs
  | .literal _ :: _, [] => false
  | .literal c :: items, d :: cs => c == d && matchItems items cs

/-- Whether a text matches a pattern; nothing matches a pattern that cannot be read. -/
def likeMatches (pattern text : List Char) : Bool :=
  match patternItems? false pattern with
  | some items => matchItems items text
  | none => false

theorem anySuffix_iff (accepts : List Char → Bool) (cs : List Char) :
    anySuffix accepts cs = true ↔ ∃ before rest, before ++ rest = cs ∧ accepts rest = true := by
  induction cs with
  | nil =>
    constructor
    · intro accepted
      exact ⟨[], [], rfl, accepted⟩
    · intro found
      obtain ⟨before, rest, empty, accepted⟩ := found
      obtain ⟨rfl, rfl⟩ := List.append_eq_nil_iff.1 empty
      exact accepted
  | cons c cs ih =>
    rw [anySuffix, Bool.or_eq_true, ih]
    constructor
    · intro found
      rcases found with accepted | ⟨before, rest, rfl, accepted⟩
      · exact ⟨[], c :: cs, rfl, accepted⟩
      · exact ⟨c :: before, rest, rfl, accepted⟩
    · intro found
      obtain ⟨before, rest, split, accepted⟩ := found
      cases before with
      | nil =>
        cases split
        exact Or.inl accepted
      | cons d before =>
        cases split
        exact Or.inr ⟨before, rest, rfl, accepted⟩

/-- A run at the end of a pattern matches whatever is left. -/
@[simp] theorem matchItems_run (cs : List Char) : matchItems [.run] cs = true :=
  (anySuffix_iff _ cs).2 ⟨cs, [], List.append_nil cs, rfl⟩

/-- Literals match themselves and leave the rest to what follows them. -/
theorem matchItems_literals (needle : List Char) (items : List PatternItem) (cs : List Char) :
    matchItems (needle.map .literal ++ items) cs = true ↔
      ∃ rest, needle ++ rest = cs ∧ matchItems items rest = true := by
  induction needle generalizing cs with
  | nil => simp
  | cons c needle ih =>
    cases cs with
    | nil => simp [matchItems]
    | cons d cs =>
      rw [List.map_cons, List.cons_append, matchItems, Bool.and_eq_true, beq_iff_eq, ih]
      constructor
      · intro found
        obtain ⟨rfl, rest, rfl, accepted⟩ := found
        exact ⟨rest, rfl, accepted⟩
      · intro found
        obtain ⟨rest, same, accepted⟩ := found
        cases same
        exact ⟨rfl, rest, rfl, accepted⟩

theorem patternItems?_run (cs : List Char) :
    patternItems? false ('%' :: cs) = (patternItems? false cs).map (.run :: ·) := rfl

theorem patternItems?_one (cs : List Char) :
    patternItems? false ('_' :: cs) = (patternItems? false cs).map (.one :: ·) := rfl

theorem patternItems?_escaped (c : Char) (cs : List Char) :
    patternItems? false (likeEscape :: c :: cs) =
      (patternItems? false cs).map (.literal c :: ·) := rfl

theorem patternItems?_plain {c : Char} (plain : ¬ (c = '%' ∨ c = '_' ∨ c = likeEscape))
    (cs : List Char) :
    patternItems? false (c :: cs) = (patternItems? false cs).map (.literal c :: ·) := by
  simp only [not_or] at plain
  rw [patternItems?, if_neg plain.2.2, if_neg plain.1, if_neg plain.2.1]

/-- An escaped text is read as literals, whatever its characters, and swallows nothing after it. -/
theorem patternItems?_literal (needle following : List Char) :
    patternItems? false (likeLiteral needle ++ following) =
      (patternItems? false following).map (needle.map .literal ++ ·) := by
  induction needle with
  | nil => simp [likeLiteral]
  | cons c needle ih =>
    rw [likeLiteral]
    split
    · rw [List.cons_append, List.cons_append, patternItems?_escaped, ih, Option.map_map]
      rfl
    · rename_i plain
      rw [List.cons_append, patternItems?_plain plain, ih, Option.map_map]
      rfl

/-- What cannot be read are the patterns that end in the middle of an escape. -/
theorem patternItems?_eq_none_iff (pattern : List Char) :
    patternItems? false pattern = none ↔ endsInEscape pattern = true := by
  induction pattern using endsInEscape.induct with
  | case1 => simp [patternItems?, endsInEscape]
  | case2 c =>
    by_cases special : c = '%' ∨ c = '_' ∨ c = likeEscape
    · rcases special with rfl | rfl | rfl <;> decide
    · have own : ¬ c = likeEscape := fun same => special (Or.inr (Or.inr same))
      rw [patternItems?_plain special]
      simp [patternItems?, endsInEscape, own]
  | case3 d cs ih =>
    rw [patternItems?_escaped, Option.map_eq_none_iff, ih, endsInEscape, if_pos rfl]
  | case4 c d cs own ih =>
    rw [endsInEscape, if_neg own, ← ih]
    by_cases special : c = '%' ∨ c = '_' ∨ c = likeEscape
    · rcases special with rfl | rfl | rfl
      · rw [patternItems?_run, Option.map_eq_none_iff]
      · rw [patternItems?_one, Option.map_eq_none_iff]
      · exact absurd rfl own
    · rw [patternItems?_plain special, Option.map_eq_none_iff]

/-! ## The matcher decides the rules -/

/-- A text that matches a pattern matches the items as which the pattern is read. -/
theorem Matches.items {pattern text : List Char} (matched : Matches pattern text) :
    ∃ items, patternItems? false pattern = some items ∧ matchItems items text = true := by
  induction matched with
  | done => exact ⟨[], rfl, rfl⟩
  | run skipped rest ih =>
    obtain ⟨items, read, accepted⟩ := ih
    refine ⟨.run :: items, by rw [patternItems?_run, read]; rfl, ?_⟩
    exact (anySuffix_iff _ _).2 ⟨skipped, _, rfl, accepted⟩
  | one c rest ih =>
    obtain ⟨items, read, accepted⟩ := ih
    exact ⟨.one :: items, by rw [patternItems?_one, read]; rfl, accepted⟩
  | escaped c rest ih =>
    obtain ⟨items, read, accepted⟩ := ih
    exact ⟨.literal c :: items, by rw [patternItems?_escaped, read]; rfl,
      by simp [matchItems, accepted]⟩
  | plain own rest ih =>
    obtain ⟨items, read, accepted⟩ := ih
    exact ⟨.literal _ :: items, by rw [patternItems?_plain own, read]; rfl,
      by simp [matchItems, accepted]⟩

/-- A text that matches what a pattern is read as matches the pattern. The induction runs over the
states of the reader: between two items, or behind an escape character that was already read. -/
theorem matches_of_items {escaped : Bool} {pattern text : List Char} {items : List PatternItem}
    (read : patternItems? escaped pattern = some items) (accepted : matchItems items text = true) :
    Matches (if escaped then likeEscape :: pattern else pattern) text := by
  induction pattern generalizing escaped text items with
  | nil =>
    cases escaped with
    | true => cases read
    | false =>
      cases read
      rw [List.isEmpty_iff.1 accepted]
      exact .done
  | cons c pattern ih =>
    cases escaped with
    | true =>
      obtain ⟨others, later, rfl⟩ := Option.map_eq_some_iff.1 read
      obtain ⟨left, rfl, rest⟩ := (matchItems_literals [c] others text).1 accepted
      exact .escaped c (ih later rest)
    | false =>
      by_cases special : c = '%' ∨ c = '_' ∨ c = likeEscape
      · rcases special with rfl | rfl | rfl
        · obtain ⟨others, later, rfl⟩ := Option.map_eq_some_iff.1 read
          obtain ⟨skipped, left, rfl, rest⟩ := (anySuffix_iff _ _).1 accepted
          exact .run skipped (ih later rest)
        · obtain ⟨others, later, rfl⟩ := Option.map_eq_some_iff.1 read
          cases text with
          | nil => cases accepted
          | cons d left => exact .one d (ih later accepted)
        · have behind : patternItems? true pattern = some items := read
          exact ih behind accepted
      · rw [patternItems?_plain special] at read
        obtain ⟨others, later, rfl⟩ := Option.map_eq_some_iff.1 read
        obtain ⟨left, rfl, rest⟩ := (matchItems_literals [c] others text).1 accepted
        exact .plain special (ih later rest)

theorem likeMatches_of_items {pattern : List Char} {items : List PatternItem}
    (read : patternItems? false pattern = some items) (text : List Char) :
    likeMatches pattern text = matchItems items text := by
  simp only [likeMatches, read]

theorem likeMatches_iff (pattern text : List Char) :
    likeMatches pattern text = true ↔ Matches pattern text := by
  constructor
  · intro accepted
    rw [likeMatches] at accepted
    split at accepted
    · rename_i items read
      exact matches_of_items read accepted
    · cases accepted
  · intro matched
    obtain ⟨items, read, accepted⟩ := matched.items
    rwa [likeMatches_of_items read]

/-! ## Patterns of escaped texts -/

theorem likeMatches_startsWith (needle text : List Char) :
    likeMatches (likeLiteral needle ++ ['%']) text = Text.startsWith needle text := by
  have items : patternItems? false (likeLiteral needle ++ ['%']) =
      some (needle.map .literal ++ [.run]) := by
    rw [patternItems?_literal, patternItems?_run]
    rfl
  rw [Bool.eq_iff_iff, likeMatches_of_items items, Text.startsWith_iff, matchItems_literals]
  simp [List.IsPrefix]

theorem likeMatches_endsWith (needle text : List Char) :
    likeMatches ('%' :: likeLiteral needle) text = Text.endsWith needle text := by
  have items : patternItems? false ('%' :: likeLiteral needle) =
      some (.run :: (needle.map .literal ++ [])) := by
    rw [patternItems?_run, ← List.append_nil (likeLiteral needle), patternItems?_literal]
    rfl
  rw [Bool.eq_iff_iff, likeMatches_of_items items, Text.endsWith_iff, matchItems, anySuffix_iff]
  constructor
  · intro found
    obtain ⟨before, rest, rfl, accepted⟩ := found
    obtain ⟨left, rfl, empty⟩ := (matchItems_literals needle [] rest).1 accepted
    rw [List.isEmpty_iff.1 empty, List.append_nil]
    exact List.suffix_append _ _
  · intro found
    obtain ⟨before, rfl⟩ := found
    exact ⟨before, needle, rfl,
      (matchItems_literals needle [] needle).2 ⟨[], List.append_nil _, rfl⟩⟩

theorem likeMatches_contains (needle text : List Char) :
    likeMatches ('%' :: likeLiteral needle ++ ['%']) text = Text.contains needle text := by
  have items : patternItems? false ('%' :: likeLiteral needle ++ ['%']) =
      some (.run :: (needle.map .literal ++ [.run])) := by
    rw [List.cons_append, patternItems?_run, patternItems?_literal, patternItems?_run]
    rfl
  rw [Bool.eq_iff_iff, likeMatches_of_items items, Text.contains_iff, matchItems, anySuffix_iff]
  constructor
  · intro found
    obtain ⟨before, rest, rfl, accepted⟩ := found
    obtain ⟨left, rfl, -⟩ := (matchItems_literals needle [.run] rest).1 accepted
    exact ⟨before, left, List.append_assoc _ _ _⟩
  · intro found
    obtain ⟨before, left, rfl⟩ := found
    exact ⟨before, needle ++ left, (List.append_assoc _ _ _).symm,
      (matchItems_literals needle [.run] _).2 ⟨left, rfl, matchItems_run left⟩⟩

/-- An escaped text stands for itself, whatever wildcards and escape characters it holds: with
percent signs on both sides, after it or before it, the pattern matches the texts that contain it,
start with it or end with it. It never ends in the middle of an escape, so that it leaves a percent
sign after it its meaning. -/
theorem matches_likeLiteral (needle text : List Char) :
    (Matches ('%' :: likeLiteral needle ++ ['%']) text ↔ needle <:+: text) ∧
    (Matches (likeLiteral needle ++ ['%']) text ↔ needle <+: text) ∧
    (Matches ('%' :: likeLiteral needle) text ↔ needle <:+ text) ∧
    endsInEscape (likeLiteral needle) = false := by
  refine ⟨?_, ?_, ?_, ?_⟩
  · rw [← likeMatches_iff, likeMatches_contains, Text.contains_iff]
  · rw [← likeMatches_iff, likeMatches_startsWith, Text.startsWith_iff]
  · rw [← likeMatches_iff, likeMatches_endsWith, Text.endsWith_iff]
  · have read := patternItems?_literal needle []
    rw [List.append_nil] at read
    rw [← Bool.not_eq_true, ← patternItems?_eq_none_iff, read]
    exact Option.some_ne_none _

end RowQuery.Sql
