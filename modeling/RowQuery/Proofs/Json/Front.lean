import Mathlib.Data.List.DropRight
import RowQuery.Json.Reader
import RowQuery.Proofs.Text.Numeral

/-!
# Values at the front of a text

What a reader takes off the front of a text, by the first character: each kind of value has its own,
and a number starts with its sign or a digit. White space in front makes no difference. Items and
members are taken one after another, with a comma or the closing bracket behind each.
-/
namespace RowQuery.Json
open Text

variable {cs rest : List Char}

/-! ## Numbers -/

theorem takePlaces_cons_of_other {c : Char} (other : c ≠ '.') (cs : List Char) :
    takePlaces (c :: cs) = some ([], c :: cs) := by
  rw [takePlaces]
  intro _ starts
  exact other (List.cons.inj starts).1

/-- The first character of a number, its sign or a digit. -/
def StartsNumber (c : Char) : Prop := c = '-' ∨ ∃ d, digit? c = some d

theorem takeNumeral_starts {n : Numeral} (taken : takeNumeral cs = some (n, rest)) :
    ∃ c ds, cs = c :: ds ∧ StartsNumber c := by
  unfold takeNumeral at taken
  split at taken
  · exact ⟨_, _, rfl, Or.inl rfl⟩
  · simp only [takeUnsigned, Option.bind_eq_bind, Option.bind_eq_some_iff, Prod.exists] at taken
    obtain ⟨whole, left, first, -⟩ := taken
    rcases found : takeAllDigits cs with ⟨digits, left⟩
    obtain ⟨rfl, small, -⟩ := takeAllDigits_eq found
    cases digits with
    | nil =>
      rw [takeWhole, found] at first
      cases first
    | cons d digits =>
      exact ⟨digitChar d, digits.map digitChar ++ left, rfl,
        Or.inr ⟨d, digit?_digitChar (small d List.mem_cons_self)⟩⟩

/-! ## Texts -/

theorem takeUnits_literal {c : Char} (quote : c ≠ '"') (slash : c ≠ '\\')
    (visible : ¬ c.toNat < 0x20) (cs : List Char) :
    takeUnits (c :: cs) = (takeUnits cs).map fun (units, rest) => (.char c :: units, rest) := by
  rw [takeUnits]
  · rw [if_neg (by simp [visible, slash])]
    cases takeUnits cs <;> rfl
  · exact quote
  · exact fun _ _ _ _ _ same => absurd same slash
  · exact fun _ _ same => absurd same slash

theorem takeUnits_simple {c d : Char} (meant : simpleEscape? c = some d) (cs : List Char) :
    takeUnits ('\\' :: c :: cs) =
      (takeUnits cs).map fun (units, rest) => (.char d :: units, rest) := by
  rw [takeUnits]
  · rw [meant]
    cases takeUnits cs <;> rfl
  · rintro _ _ _ _ _ rfl
    cases meant

theorem takeUnits_hex {a b c d : Char} {unit : TextUnit} (named : hexUnit? a b c d = some unit)
    (cs : List Char) :
    takeUnits ('\\' :: 'u' :: a :: b :: c :: d :: cs) =
      (takeUnits cs).map fun (units, rest) => (unit :: units, rest) := by
  rw [takeUnits, named]
  cases takeUnits cs <;> rfl

/-! ## White space -/

theorem skipSpace_cons_of_space (space : isSpace c = true) (cs : List Char) :
    skipSpace (c :: cs) = skipSpace cs := List.dropWhile_cons_of_pos space

theorem skipSpace_cons_of_other (other : isSpace c = false) (cs : List Char) :
    skipSpace (c :: cs) = c :: cs := List.dropWhile_cons_of_neg (by simp [other])

theorem StartsNumber.notSpace (number : StartsNumber c) : isSpace c = false := by
  rcases number with rfl | ⟨d, digit⟩
  · rfl
  · obtain ⟨small, rfl⟩ := digit?_eq_some digit
    have all : ∀ d < 10, isSpace (digitChar d) = false := by decide
    exact all d small

theorem skipSpace_append {c : Char} (starts : skipSpace cs = c :: rest) (tail : List Char) :
    skipSpace (cs ++ tail) = c :: (rest ++ tail) := by
  rw [skipSpace] at starts
  rw [skipSpace, List.dropWhile_append, if_neg (by simp [starts]), starts, List.cons_append]

theorem expect?_eq_some {c : Char} : expect? c cs = some rest ↔ cs = c :: rest := by
  cases cs with
  | nil => simp [expect?]
  | cons d ds => simp [expect?, eq_comm]

theorem skipSpace_skipSpace (cs : List Char) : skipSpace (skipSpace cs) = skipSpace cs :=
  List.dropWhile_idempotent _ _

section
variable {fuel : Nat}

/-! ## Items and members -/

theorem takeItems_succ {items : List Json} :
    takeItems (fuel + 1) cs = some (items, rest) ↔
      ∃ item left, takeValue fuel cs = some (item, left) ∧
        ((∃ after others, skipSpace left = ',' :: after ∧
            takeItems fuel after = some (others, rest) ∧ items = item :: others) ∨
          skipSpace left = ']' :: rest ∧ items = [item]) := by
  rw [takeItems]
  constructor
  · intro taken
    obtain ⟨⟨item, left⟩, first, step⟩ := Option.bind_eq_some_iff.1 taken
    refine ⟨item, left, first, ?_⟩
    dsimp only at step
    split at step
    · rename_i after comma
      obtain ⟨⟨others, left⟩, found, same⟩ := Option.bind_eq_some_iff.1 step
      cases same
      exact Or.inl ⟨after, others, comma, found, rfl⟩
    · rename_i after closes
      cases step
      exact Or.inr ⟨closes, rfl⟩
    · cases step
  · rintro ⟨item, left, first, ⟨after, others, comma, found, rfl⟩ | ⟨closes, rfl⟩⟩
    · simp [first, comma, found]
    · simp [first, closes]

theorem takeMembers_succ {members : List (Option String × Json)} :
    takeMembers (fuel + 1) cs = some (members, rest) ↔
      ∃ afterQuote key afterKey afterColon value left,
        expect? '"' (skipSpace cs) = some afterQuote ∧
        takeText afterQuote = some (key, afterKey) ∧
        expect? ':' (skipSpace afterKey) = some afterColon ∧
        takeValue fuel afterColon = some (value, left) ∧
        ((∃ after others, skipSpace left = ',' :: after ∧
            takeMembers fuel after = some (others, rest) ∧ members = (key, value) :: others) ∨
          skipSpace left = '}' :: rest ∧ members = [(key, value)]) := by
  rw [takeMembers]
  constructor
  · intro taken
    obtain ⟨afterQuote, quote, taken⟩ := Option.bind_eq_some_iff.1 taken
    obtain ⟨⟨key, afterKey⟩, text, taken⟩ := Option.bind_eq_some_iff.1 taken
    obtain ⟨afterColon, colon, taken⟩ := Option.bind_eq_some_iff.1 taken
    obtain ⟨⟨value, left⟩, first, step⟩ := Option.bind_eq_some_iff.1 taken
    refine ⟨afterQuote, key, afterKey, afterColon, value, left, quote, text, colon, first, ?_⟩
    dsimp only at step
    split at step
    · rename_i after comma
      obtain ⟨⟨others, left⟩, found, same⟩ := Option.bind_eq_some_iff.1 step
      cases same
      exact Or.inl ⟨after, others, comma, found, rfl⟩
    · rename_i after closes
      cases step
      exact Or.inr ⟨closes, rfl⟩
    · cases step
  · rintro ⟨afterQuote, key, afterKey, afterColon, value, left, quote, text, colon, first, step⟩
    rcases step with ⟨after, others, comma, found, rfl⟩ | ⟨closes, rfl⟩
    · simp [quote, text, colon, first, comma, found]
    · simp [quote, text, colon, first, closes]

/-! ## White space in front -/

theorem takeValue_skipSpace : takeValue fuel (skipSpace cs) = takeValue fuel cs := by
  cases fuel with
  | zero => simp only [takeValue]
  | succ fuel => rw [takeValue, takeValue, skipSpace_skipSpace]

theorem takeItems_skipSpace : takeItems fuel (skipSpace cs) = takeItems fuel cs := by
  cases fuel with
  | zero => simp only [takeItems]
  | succ fuel => rw [takeItems, takeItems, takeValue_skipSpace]

theorem takeMembers_skipSpace : takeMembers fuel (skipSpace cs) = takeMembers fuel cs := by
  cases fuel with
  | zero => simp only [takeMembers]
  | succ fuel => rw [takeMembers, takeMembers, skipSpace_skipSpace]

/-! ## First characters -/

theorem StartsNumber.ne {c d : Char} (number : StartsNumber c) (other : digit? d = none)
    (sign : d ≠ '-') : c ≠ d := by
  rintro rfl
  rcases number with minus | ⟨n, digit⟩
  · exact sign minus
  · rw [other] at digit
    cases digit

/-- A closing bracket begins no value. -/
theorem takeValue_starts {json : Json} (taken : takeValue fuel cs = some (json, rest)) :
    ∃ c ds, skipSpace cs = c :: ds ∧ c ≠ ']' := by
  cases fuel with
  | zero => simp [takeValue] at taken
  | succ fuel =>
    rw [takeValue] at taken
    split at taken
    iterate 6
      rename_i starts
      exact ⟨_, _, starts, by decide⟩
    obtain ⟨_, found, -⟩ := Option.map_eq_some_iff.1 taken
    obtain ⟨c, ds, starts, number⟩ := takeNumeral_starts found
    exact ⟨c, ds, starts, number.ne rfl (by decide)⟩

theorem takeItems_starts {items : List Json} (taken : takeItems fuel cs = some (items, rest)) :
    ∃ c ds, skipSpace cs = c :: ds ∧ c ≠ ']' := by
  cases fuel with
  | zero => simp [takeItems] at taken
  | succ fuel =>
    obtain ⟨_, _, first, -⟩ := takeItems_succ.1 taken
    exact takeValue_starts first

theorem takeMembers_starts {members : List (Option String × Json)}
    (taken : takeMembers fuel cs = some (members, rest)) :
    ∃ c ds, skipSpace cs = c :: ds ∧ c ≠ '}' := by
  cases fuel with
  | zero => simp [takeMembers] at taken
  | succ fuel =>
    obtain ⟨_, _, _, _, _, _, quote, -⟩ := takeMembers_succ.1 taken
    cases front : skipSpace cs with
    | nil =>
      rw [front] at quote
      cases quote
    | cons c ds =>
      refine ⟨c, ds, rfl, ?_⟩
      rintro rfl
      rw [front] at quote
      cases quote

/-! ## Values by their first character -/

theorem takeValue_null (starts : skipSpace cs = 'n' :: 'u' :: 'l' :: 'l' :: rest) :
    takeValue (fuel + 1) cs = some (.null, rest) := by
  rw [← takeValue_skipSpace, starts]
  rfl

theorem takeValue_true (starts : skipSpace cs = 't' :: 'r' :: 'u' :: 'e' :: rest) :
    takeValue (fuel + 1) cs = some (.bool true, rest) := by
  rw [← takeValue_skipSpace, starts]
  rfl

theorem takeValue_false (starts : skipSpace cs = 'f' :: 'a' :: 'l' :: 's' :: 'e' :: rest) :
    takeValue (fuel + 1) cs = some (.bool false, rest) := by
  rw [← takeValue_skipSpace, starts]
  rfl

theorem takeValue_string (starts : skipSpace cs = '"' :: rest) :
    takeValue (fuel + 1) cs = (takeText rest).map fun (s, rest) => (.string s, rest) := by
  rw [← takeValue_skipSpace, starts]
  rfl

theorem takeValue_number {c : Char} (starts : skipSpace cs = c :: rest) (number : StartsNumber c) :
    takeValue (fuel + 1) cs = (takeNumeral (c :: rest)).map fun (n, rest) => (.number n, rest) := by
  rw [takeValue]
  split <;> rename_i same <;> rw [starts] at same
  iterate 6 exact absurd (List.cons.inj same).1 (number.ne (by decide) (by decide))
  rw [starts]

theorem takeValue_array (starts : skipSpace cs = '[' :: rest) :
    takeValue (fuel + 1) cs =
      match skipSpace rest with
      | ']' :: rest => some (.array [], rest)
      | rest => (takeItems fuel rest).map fun (items, rest) => (.array items, rest) := by
  rw [← takeValue_skipSpace, starts]
  rfl

theorem takeValue_noItems (starts : skipSpace cs = '[' :: rest) {left : List Char}
    (closes : skipSpace rest = ']' :: left) :
    takeValue (fuel + 1) cs = some (.array [], left) := by
  rw [takeValue_array starts, closes]
  rfl

theorem takeValue_items (starts : skipSpace cs = '[' :: rest) {items : List Json}
    {left : List Char} (taken : takeItems fuel rest = some (items, left)) :
    takeValue (fuel + 1) cs = some (.array items, left) := by
  obtain ⟨c, ds, front, open_still⟩ := takeItems_starts taken
  rw [takeValue_array starts]
  split
  · rename_i closes
    rw [front] at closes
    exact absurd (List.cons.inj closes).1 open_still
  · rw [takeItems_skipSpace, taken]
    rfl

theorem takeValue_object (starts : skipSpace cs = '{' :: rest) :
    takeValue (fuel + 1) cs =
      match skipSpace rest with
      | '}' :: rest => some (.object [], rest)
      | rest => (takeMembers fuel rest).map fun (members, rest) => (.object members, rest) := by
  rw [← takeValue_skipSpace, starts]
  rfl

theorem takeValue_noMembers (starts : skipSpace cs = '{' :: rest) {left : List Char}
    (closes : skipSpace rest = '}' :: left) :
    takeValue (fuel + 1) cs = some (.object [], left) := by
  rw [takeValue_object starts, closes]
  rfl

theorem takeValue_members (starts : skipSpace cs = '{' :: rest)
    {members : List (Option String × Json)} {left : List Char}
    (taken : takeMembers fuel rest = some (members, left)) :
    takeValue (fuel + 1) cs = some (.object members, left) := by
  obtain ⟨c, ds, front, open_still⟩ := takeMembers_starts taken
  rw [takeValue_object starts]
  split
  · rename_i closes
    rw [front] at closes
    exact absurd (List.cons.inj closes).1 open_still
  · rw [takeMembers_skipSpace, taken]
    rfl

theorem takeValue_of_takeNumeral {n : Numeral} (taken : takeNumeral cs = some (n, rest)) :
    takeValue (fuel + 1) cs = some (.number n, rest) := by
  obtain ⟨c, ds, rfl, number⟩ := takeNumeral_starts taken
  rw [takeValue_number (skipSpace_cons_of_other number.notSpace ds) number, taken, Option.map_some]

end

end RowQuery.Json
