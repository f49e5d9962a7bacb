import Mathlib.Data.List.Forall2
import RowQuery.Proofs.Json.Front

/-!
# Texts read in step

A reader goes through a text character by character, so that texts which go on alike are read in
step: what is taken off the one is taken off the other. Only a number has no end of its own. It goes
on through digits, a point and an exponent, so that behind it texts have to be alike for one
character more.

One text that goes on like another is the same with more behind it that cannot continue a number.
What is taken off the front of a text so does not depend on what follows, nor on the fuel.
-/
namespace RowQuery.Json
open Text

/-- Nothing at the front continues a number. -/
def Ends (cs : List Char) : Prop :=
  ∀ c rest, cs = c :: rest → digit? c = none ∧ c ≠ '.' ∧ c ≠ 'e' ∧ c ≠ 'E'

theorem ends_cons {c : Char} (other : digit? c = none ∧ c ≠ '.' ∧ c ≠ 'e' ∧ c ≠ 'E')
    (cs : List Char) : Ends (c :: cs) := by
  rintro c' rest starts
  cases starts
  exact other

variable {cs cs' rest tail : List Char} {c : Char}

theorem Ends.noDigit (ends : Ends cs) : NoDigit cs :=
  fun c rest starts => (ends c rest starts).1

/-! ## Numbers -/

/-- Whether a number may go on with a character. -/
def continuesNumber (c : Char) : Bool := (digit? c).isSome || ['-', '+', '.', 'e', 'E'].contains c

theorem continuesNumber_digitChar {d : Nat} (small : d < 10) :
    continuesNumber (digitChar d) = true := by
  rw [continuesNumber, digit?_digitChar small]
  rfl

/-- Texts that are alike for a reader of numbers. They start with the same character and stay alike
behind one with which a number may go on; and where the first ends, the second does not continue a
number. -/
structure NumbersInStep (Alike : List Char → List Char → Prop) : Prop where
  step : ∀ {c cs cs'}, Alike (c :: cs) cs' →
    ∃ rest', cs' = c :: rest' ∧ (continuesNumber c = true → Alike cs rest')
  ends : ∀ {cs'}, Alike [] cs' → Ends cs'

theorem numbersInStep_append (ends : Ends tail) :
    NumbersInStep fun cs cs' => cs' = cs ++ tail where
  step alike := ⟨_, alike, fun _ => rfl⟩
  ends alike := alike ▸ ends

section
variable {Alike : List Char → List Char → Prop} (numbers : NumbersInStep Alike)
include numbers

theorem NumbersInStep.digits {ds : List Nat} (small : ∀ d ∈ ds, d < 10)
    (alike : Alike (ds.map digitChar ++ rest) cs') :
    ∃ rest', cs' = ds.map digitChar ++ rest' ∧ Alike rest rest' := by
  induction ds generalizing cs' with
  | nil => exact ⟨cs', rfl, alike⟩
  | cons d ds ih =>
    obtain ⟨smallDigit, others⟩ := List.forall_mem_cons.1 small
    obtain ⟨left, rfl, onward⟩ := numbers.step alike
    obtain ⟨rest', rfl, behind⟩ := ih others (onward (continuesNumber_digitChar smallDigit))
    exact ⟨rest', rfl, behind⟩

theorem takeAllDigits_alike {ds : List Nat} (taken : takeAllDigits cs = (ds, rest))
    (alike : Alike cs cs') : ∃ rest', takeAllDigits cs' = (ds, rest') ∧ Alike rest rest' := by
  obtain ⟨rfl, small, stop⟩ := takeAllDigits_eq taken
  obtain ⟨rest', rfl, behind⟩ := numbers.digits small alike
  have stop' : NoDigit rest' := by
    cases rest with
    | nil => exact (numbers.ends behind).noDigit
    | cons c rest =>
      obtain ⟨_, rfl, -⟩ := numbers.step behind
      exact noDigit_cons (stop c _ rfl) _
  exact ⟨rest', takeAllDigits_map_digitChar small stop', behind⟩

theorem takeWhole_alike {ds : List Nat} (taken : takeWhole cs = some (ds, rest))
    (alike : Alike cs cs') : ∃ rest', takeWhole cs' = some (ds, rest') ∧ Alike rest rest' := by
  rcases found : takeAllDigits cs with ⟨digits, left⟩
  obtain ⟨rest', found', behind⟩ := takeAllDigits_alike numbers found alike
  rw [takeWhole, found] at taken
  rw [takeWhole, found']
  split at taken <;> simp_all

theorem takePlaces_alike {ds : List Nat} (taken : takePlaces cs = some (ds, rest))
    (alike : Alike cs cs') : ∃ rest', takePlaces cs' = some (ds, rest') ∧ Alike rest rest' := by
  cases cs with
  | nil =>
    cases taken
    refine ⟨cs', ?_, alike⟩
    cases cs' with
    | nil => rfl
    | cons c left => exact takePlaces_cons_of_other (numbers.ends alike c left rfl).2.1 left
  | cons c left =>
    obtain ⟨left', rfl, onward⟩ := numbers.step alike
    by_cases point : c = '.'
    · subst point
      rcases found : takeAllDigits left with ⟨digits, after⟩
      obtain ⟨rest', found', behind⟩ := takeAllDigits_alike numbers found (onward rfl)
      rw [takePlaces, found] at taken
      rw [takePlaces, found']
      split at taken <;> simp_all
    · rw [takePlaces_cons_of_other point] at taken
      cases taken
      exact ⟨c :: left', takePlaces_cons_of_other point _, alike⟩

theorem takeExponentDigits_alike {negative : Bool} {exponent : Option Int}
    (taken : takeExponentDigits negative cs = some (exponent, rest)) (alike : Alike cs cs') :
    ∃ rest', takeExponentDigits negative cs' = some (exponent, rest') ∧ Alike rest rest' := by
  rcases found : takeAllDigits cs with ⟨digits, left⟩
  obtain ⟨rest', found', behind⟩ := takeAllDigits_alike numbers found alike
  rw [takeExponentDigits, found] at taken
  rw [takeExponentDigits, found']
  split at taken <;> simp_all

theorem takeExponent_alike {exponent : Option Int}
    (taken : takeExponent cs = some (exponent, rest)) (alike : Alike cs cs') :
    ∃ rest', takeExponent cs' = some (exponent, rest') ∧ Alike rest rest' := by
  cases cs with
  | nil =>
    cases taken
    refine ⟨cs', ?_, alike⟩
    cases cs' with
    | nil => rfl
    | cons c left =>
      obtain ⟨-, -, small, large⟩ := numbers.ends alike c left rfl
      simp [takeExponent, small, large]
  | cons c left =>
    obtain ⟨left', rfl, onward⟩ := numbers.step alike
    unfold takeExponent at taken ⊢
    dsimp only at taken ⊢
    split at taken
    · rename_i letter
      rw [if_pos letter]
      have continues : continuesNumber c = true := by rcases letter with rfl | rfl <;> rfl
      split at taken
      · obtain ⟨_, rfl, digits⟩ := numbers.step (onward continues)
        exact takeExponentDigits_alike numbers taken (digits rfl)
      · obtain ⟨_, rfl, digits⟩ := numbers.step (onward continues)
        exact takeExponentDigits_alike numbers taken (digits rfl)
      · rename_i minus plus
        obtain ⟨rest', found', behind⟩ := takeExponentDigits_alike numbers taken (onward continues)
        refine ⟨rest', ?_, behind⟩
        cases left with
        | nil => cases taken
        | cons d ds =>
          obtain ⟨_, rfl, -⟩ := numbers.step (onward continues)
          split
          · rename_i starts
            cases starts
            exact absurd rfl (minus ds)
          · rename_i starts
            cases starts
            exact absurd rfl (plus ds)
          · exact found'
    · rename_i letter
      cases taken
      rw [if_neg letter]
      exact ⟨c :: left', rfl, alike⟩

theorem takeUnsigned_alike {negative : Bool} {n : Numeral}
    (taken : takeUnsigned negative cs = some (n, rest)) (alike : Alike cs cs') :
    ∃ rest', takeUnsigned negative cs' = some (n, rest') ∧ Alike rest rest' := by
  simp only [takeUnsigned, Option.bind_eq_bind, Option.bind_eq_some_iff, Prod.exists,
    Option.pure_def, Option.some.injEq, Prod.mk.injEq] at taken
  obtain ⟨whole, cs₁, first, places, cs₂, second, exponent, cs₃, third, same, rfl⟩ := taken
  obtain ⟨_, wholeTaken, afterWhole⟩ := takeWhole_alike numbers first alike
  obtain ⟨_, placesTaken, afterPlaces⟩ := takePlaces_alike numbers second afterWhole
  obtain ⟨rest', exponentTaken, behind⟩ := takeExponent_alike numbers third afterPlaces
  refine ⟨rest', ?_, behind⟩
  simp only [takeUnsigned, wholeTaken, placesTaken, exponentTaken, Option.bind_eq_bind,
    Option.bind_some, Option.pure_def, same]

end

theorem takeNumeral_alike {Alike : List Char → List Char → Prop} (numbers : NumbersInStep Alike)
    {n : Numeral} (taken : takeNumeral cs = some (n, rest)) (alike : Alike cs cs') :
    ∃ rest', takeNumeral cs' = some (n, rest') ∧ Alike rest rest' := by
  obtain ⟨c, left, rfl, -⟩ := takeNumeral_starts taken
  obtain ⟨left', rfl, onward⟩ := numbers.step alike
  unfold takeNumeral at taken ⊢
  split at taken
  · rename_i starts
    cases starts
    exact takeUnsigned_alike numbers taken (onward rfl)
  · rename_i unsigned
    split
    · rename_i starts
      cases starts
      exact absurd rfl (unsigned left)
    · exact takeUnsigned_alike numbers taken alike

/-! ## Documents in step -/

/-- Between the texts of a document, inside of one, or behind a backslash in one. -/
inductive Place where
  | outside | inside | escaped
  deriving DecidableEq, Repr

namespace Place

def next : Place → Char → Place
  | outside, c => if c = '"' then inside else outside
  | inside, c => if c = '"' then outside else if c = '\\' then escaped else inside
  | escaped, _ => inside

theorem next_outside (other : c ≠ '"') : next outside c = outside := if_neg other

theorem next_inside (quote : c ≠ '"') (slash : c ≠ '\\') : next inside c = inside := by
  rw [next, if_neg quote, if_neg slash]

end Place

/-- Members of one name that hold the same. -/
def SameMember (Same : Json → Json → Prop) (member other : Option String × Json) : Prop :=
  member.1 = other.1 ∧ Same member.2 other.2

/-- Documents that are alike for a reader, from a place in both on. They start with the same
character, and stay alike behind it, where no number begins. White space in front makes no
difference. Where a number is taken off the first, a value that counts as the same is taken off the
second, and they are alike behind. -/
structure InStep (Alike : Place → List Char → List Char → Prop) (Same : Json → Json → Prop) :
    Prop where
  step : ∀ {place c cs cs'}, Alike place (c :: cs) cs' → (place = .outside → ¬ StartsNumber c) →
    ∃ rest', cs' = c :: rest' ∧ Alike (place.next c) cs rest'
  space : ∀ {cs cs'}, Alike .outside cs cs' → skipSpace cs ≠ [] →
    Alike .outside (skipSpace cs) (skipSpace cs')
  number : ∀ {cs cs' n rest}, Alike .outside cs cs' → takeNumeral cs = some (n, rest) →
    ∃ json rest', (∀ fuel, takeValue (fuel + 1) cs' = some (json, rest')) ∧
      Same (.number n) json ∧ Alike .outside rest rest'
  refl : ∀ json, Same json json
  array : ∀ {items others}, List.Forall₂ Same items others → Same (.array items) (.array others)
  object : ∀ {members others}, List.Forall₂ (SameMember Same) members others →
    Same (.object members) (.object others)

/-- A character that begins neither a number nor a text. -/
def isPlain (c : Char) : Bool := (digit? c).isNone && c != '-' && c != '"'

/-! ## Texts -/

section
variable {Alike : Place → List Char → List Char → Prop} {Same : Json → Json → Prop}
  (steps : InStep Alike Same)
include steps

theorem InStep.hexDigit {d : Nat} (alike : Alike .inside (c :: cs) cs')
    (hex : hexDigit? c = some d) : ∃ rest', cs' = c :: rest' ∧ Alike .inside cs rest' := by
  have plain : Place.next .inside c = .inside := by
    refine Place.next_inside ?_ ?_ <;> rintro rfl <;> cases hex
  obtain ⟨rest', rfl, onward⟩ := steps.step alike nofun
  exact ⟨rest', rfl, plain ▸ onward⟩

/-- What the reader takes for a text ends where the text ends. -/
theorem takeUnits_alike {units : List TextUnit} (taken : takeUnits cs = some (units, rest))
    (alike : Alike .inside cs cs') :
    ∃ rest', takeUnits cs' = some (units, rest') ∧ Alike .outside rest rest' := by
  fun_induction takeUnits cs generalizing units rest cs' with
  | case1 => cases taken
  | case2 after =>
    cases taken
    obtain ⟨rest', rfl, behind⟩ := steps.step alike nofun
    exact ⟨rest', rfl, behind⟩
  | case3 a b c d after ih =>
    simp only [Option.bind_eq_bind, Option.bind_eq_some_iff, Prod.exists, Option.pure_def,
      Option.some.injEq, Prod.mk.injEq] at taken
    obtain ⟨unit, named, others, left, further, rfl, rfl⟩ := taken
    have digits := named
    simp only [hexUnit?, Option.bind_eq_bind, Option.bind_eq_some_iff] at digits
    obtain ⟨_, first, _, second, _, third, _, fourth, -⟩ := digits
    obtain ⟨_, rfl, letter⟩ := steps.step alike nofun
    obtain ⟨_, rfl, digits⟩ := steps.step letter nofun
    obtain ⟨_, rfl, afterFirst⟩ := steps.hexDigit digits first
    obtain ⟨_, rfl, afterSecond⟩ := steps.hexDigit afterFirst second
    obtain ⟨_, rfl, afterThird⟩ := steps.hexDigit afterSecond third
    obtain ⟨_, rfl, onward⟩ := steps.hexDigit afterThird fourth
    obtain ⟨rest', found, behind⟩ := ih further onward
    exact ⟨rest', by rw [takeUnits_hex named, found, Option.map_some], behind⟩
  | case4 c after _ ih =>
    simp only [Option.bind_eq_bind, Option.bind_eq_some_iff, Prod.exists, Option.pure_def,
      Option.some.injEq, Prod.mk.injEq] at taken
    obtain ⟨d, meant, others, left, further, rfl, rfl⟩ := taken
    obtain ⟨_, rfl, letter⟩ := steps.step alike nofun
    obtain ⟨_, rfl, onward⟩ := steps.step letter nofun
    obtain ⟨rest', found, behind⟩ := ih further onward
    exact ⟨rest', by rw [takeUnits_simple meant, found, Option.map_some], behind⟩
  | case5 => cases taken
  | case6 c after quote _ _ visible ih =>
    simp only [Option.bind_eq_bind, Option.bind_eq_some_iff, Prod.exists, Option.pure_def,
      Option.some.injEq, Prod.mk.injEq] at taken
    obtain ⟨others, left, further, rfl, rfl⟩ := taken
    simp only [Bool.or_eq_true, decide_eq_true_eq, not_or] at visible
    obtain ⟨_, rfl, onward⟩ := steps.step alike nofun
    rw [Place.next_inside quote visible.2] at onward
    obtain ⟨rest', found, behind⟩ := ih further onward
    exact ⟨rest', by rw [takeUnits_literal quote visible.2 visible.1, found, Option.map_some],
      behind⟩

theorem takeText_alike {text : Option String} (taken : takeText cs = some (text, rest))
    (alike : Alike .inside cs cs') :
    ∃ rest', takeText cs' = some (text, rest') ∧ Alike .outside rest rest' := by
  simp only [takeText, Option.map_eq_some_iff, Prod.exists, Prod.mk.injEq] at taken
  obtain ⟨units, left, found, rfl, rfl⟩ := taken
  obtain ⟨rest', same, behind⟩ := takeUnits_alike steps found alike
  exact ⟨rest', by rw [takeText, same, Option.map_some], behind⟩

end

/-! ## Values in step -/

section
variable {fuel : Nat}

section
variable {Alike : Place → List Char → List Char → Prop} {Same : Json → Json → Prop}

/-- Off documents that are alike, the same is taken, also with more fuel. -/
def TakesSame (Alike : Place → List Char → List Char → Prop) {α : Type} (Same : α → α → Prop)
    (take : (fuel : Nat) → List Char → Option (α × List Char)) (fuel : Nat) : Prop :=
  ∀ {cs cs' value rest}, Alike .outside cs cs' → take fuel cs = some (value, rest) →
    ∀ {more}, fuel ≤ more →
      ∃ other rest', take more cs' = some (other, rest') ∧ Same value other ∧
        Alike .outside rest rest'

theorem exists_succ_of_lt {fuel more : Nat} (enough : fuel < more) :
    ∃ k, more = k + 1 ∧ fuel ≤ k :=
  ⟨more - 1, by omega, by omega⟩

variable (steps : InStep Alike Same)
include steps

/-- Letters and punctuation behind white space. -/
theorem InStep.word (word : List Char) (plain : word.all isPlain = true)
    (alike : Alike .outside (word ++ rest) cs') :
    ∃ rest', cs' = word ++ rest' ∧ Alike .outside rest rest' := by
  induction word generalizing cs' with
  | nil => exact ⟨cs', rfl, alike⟩
  | cons c word ih =>
    rw [List.all_cons, Bool.and_eq_true, isPlain, Bool.and_eq_true, Bool.and_eq_true,
      Option.isNone_iff_eq_none, bne_iff_ne, bne_iff_ne] at plain
    obtain ⟨⟨⟨noDigit, sign⟩, quote⟩, others⟩ := plain
    obtain ⟨left, rfl, onward⟩ :=
      steps.step alike fun _ number => number.ne noDigit sign rfl
    rw [Place.next_outside quote] at onward
    obtain ⟨rest', rfl, behind⟩ := ih others onward
    exact ⟨rest', rfl, behind⟩

theorem InStep.spacedWord (c : Char) (word : List Char) (plain : (c :: word).all isPlain = true)
    (alike : Alike .outside cs cs') (starts : skipSpace cs = c :: word ++ rest) :
    ∃ rest', skipSpace cs' = c :: word ++ rest' ∧ Alike .outside rest rest' := by
  have along := steps.space alike (by rw [starts]; exact List.cons_ne_nil _ _)
  rw [starts] at along
  exact steps.word (c :: word) plain along

theorem InStep.spacedQuote (alike : Alike .outside cs cs') (starts : skipSpace cs = '"' :: rest) :
    ∃ rest', skipSpace cs' = '"' :: rest' ∧ Alike .inside rest rest' := by
  have along := steps.space alike (by rw [starts]; exact List.cons_ne_nil _ _)
  rw [starts] at along
  exact steps.step along fun _ number => number.ne rfl (by decide) rfl

theorem takeValue_alike (items : TakesSame Alike (List.Forall₂ Same) takeItems fuel)
    (members : TakesSame Alike (List.Forall₂ (SameMember Same)) takeMembers fuel) :
    TakesSame Alike Same takeValue (fuel + 1) := by
  intro cs cs' json rest alike taken more above
  obtain ⟨more, rfl, enough⟩ := exists_succ_of_lt above
  rw [takeValue] at taken
  split at taken
  · rename_i starts
    cases taken
    obtain ⟨rest', starts', behind⟩ := steps.spacedWord 'n' ['u', 'l', 'l'] rfl alike starts
    exact ⟨_, rest', takeValue_null starts', steps.refl _, behind⟩
  · rename_i starts
    cases taken
    obtain ⟨rest', starts', behind⟩ := steps.spacedWord 't' ['r', 'u', 'e'] rfl alike starts
    exact ⟨_, rest', takeValue_true starts', steps.refl _, behind⟩
  · rename_i starts
    cases taken
    obtain ⟨rest', starts', behind⟩ := steps.spacedWord 'f' ['a', 'l', 's', 'e'] rfl alike starts
    exact ⟨_, rest', takeValue_false starts', steps.refl _, behind⟩
  · rename_i inside starts
    obtain ⟨⟨text, left⟩, found, same⟩ := Option.map_eq_some_iff.1 taken
    cases same
    obtain ⟨inside', starts', within⟩ := steps.spacedQuote alike starts
    obtain ⟨rest', found', behind⟩ := takeText_alike steps found within
    exact ⟨_, rest', by rw [takeValue_string starts', found', Option.map_some], steps.refl _,
      behind⟩
  · rename_i inside starts
    obtain ⟨inside', starts', within⟩ := steps.spacedWord '[' [] rfl alike starts
    split at taken
    · rename_i left closes
      cases taken
      obtain ⟨rest', closes', behind⟩ := steps.spacedWord ']' [] rfl within closes
      exact ⟨_, rest', takeValue_noItems starts' closes', steps.refl _, behind⟩
    · obtain ⟨⟨values, left⟩, found, same⟩ := Option.map_eq_some_iff.1 taken
      cases same
      rw [takeItems_skipSpace] at found
      obtain ⟨others, rest', found', same, behind⟩ := items within found enough
      exact ⟨_, rest', takeValue_items starts' found', steps.array same, behind⟩
  · rename_i inside starts
    obtain ⟨inside', starts', within⟩ := steps.spacedWord '{' [] rfl alike starts
    split at taken
    · rename_i left closes
      cases taken
      obtain ⟨rest', closes', behind⟩ := steps.spacedWord '}' [] rfl within closes
      exact ⟨_, rest', takeValue_noMembers starts' closes', steps.refl _, behind⟩
    · obtain ⟨⟨values, left⟩, found, same⟩ := Option.map_eq_some_iff.1 taken
      cases same
      rw [takeMembers_skipSpace] at found
      obtain ⟨others, rest', found', same, behind⟩ := members within found enough
      exact ⟨_, rest', takeValue_members starts' found', steps.object same, behind⟩
  · obtain ⟨⟨n, left⟩, found, same⟩ := Option.map_eq_some_iff.1 taken
    cases same
    obtain ⟨c, ds, starts, -⟩ := takeNumeral_starts found
    have along := steps.space alike (by rw [starts]; exact List.cons_ne_nil c ds)
    obtain ⟨other, rest', found', same, behind⟩ := steps.number along found
    exact ⟨other, rest', takeValue_skipSpace.symm.trans (found' more), same, behind⟩

theorem takeItems_alike (values : TakesSame Alike Same takeValue fuel)
    (items : TakesSame Alike (List.Forall₂ Same) takeItems fuel) :
    TakesSame Alike (List.Forall₂ Same) takeItems (fuel + 1) := by
  intro cs cs' all rest alike taken more above
  obtain ⟨more, rfl, enough⟩ := exists_succ_of_lt above
  obtain ⟨item, left, first, step⟩ := takeItems_succ.1 taken
  obtain ⟨item', left', first', same, onward⟩ := values alike first enough
  rcases step with ⟨after, others, comma, found, rfl⟩ | ⟨closes, rfl⟩
  · obtain ⟨after', comma', further⟩ := steps.spacedWord ',' [] rfl onward comma
    obtain ⟨others', rest', found', sames, behind⟩ := items further found enough
    exact ⟨item' :: others', rest', takeItems_succ.2 ⟨item', left', first',
      Or.inl ⟨after', others', comma', found', rfl⟩⟩, .cons same sames, behind⟩
  · obtain ⟨rest', closes', behind⟩ := steps.spacedWord ']' [] rfl onward closes
    exact ⟨[item'], rest', takeItems_succ.2 ⟨item', left', first', Or.inr ⟨closes', rfl⟩⟩,
      .cons same .nil, behind⟩

theorem takeMembers_alike (values : TakesSame Alike Same takeValue fuel)
    (members : TakesSame Alike (List.Forall₂ (SameMember Same)) takeMembers fuel) :
    TakesSame Alike (List.Forall₂ (SameMember Same)) takeMembers (fuel + 1) := by
  intro cs cs' all rest alike taken more above
  obtain ⟨more, rfl, enough⟩ := exists_succ_of_lt above
  obtain ⟨afterQuote, key, afterKey, afterColon, value, left, quote, text, colon, first, step⟩ :=
    takeMembers_succ.1 taken
  obtain ⟨afterQuote', quote', inside⟩ := steps.spacedQuote alike (expect?_eq_some.1 quote)
  obtain ⟨afterKey', text', named⟩ := takeText_alike steps text inside
  obtain ⟨afterColon', colon', held⟩ :=
    steps.spacedWord ':' [] rfl named (expect?_eq_some.1 colon)
  obtain ⟨value', left', first', same, onward⟩ := values held first enough
  rcases step with ⟨after, others, comma, found, rfl⟩ | ⟨closes, rfl⟩
  · obtain ⟨after', comma', further⟩ := steps.spacedWord ',' [] rfl onward comma
    obtain ⟨others', rest', found', sames, behind⟩ := members further found enough
    exact ⟨(key, value') :: others', rest', takeMembers_succ.2 ⟨afterQuote', key, afterKey',
      afterColon', value', left', expect?_eq_some.2 quote', text', expect?_eq_some.2 colon', first',
      Or.inl ⟨after', others', comma', found', rfl⟩⟩, .cons ⟨rfl, same⟩ sames, behind⟩
  · obtain ⟨rest', closes', behind⟩ := steps.spacedWord '}' [] rfl onward closes
    exact ⟨[(key, value')], rest', takeMembers_succ.2 ⟨afterQuote', key, afterKey',
      afterColon', value', left', expect?_eq_some.2 quote', text', expect?_eq_some.2 colon', first',
      Or.inr ⟨closes', rfl⟩⟩, .cons ⟨rfl, same⟩ .nil, behind⟩

/-- By induction on the fuel: each part is taken with less of it than the whole. -/
theorem take_alike (fuel : Nat) : TakesSame Alike Same takeValue fuel ∧
    TakesSame Alike (List.Forall₂ Same) takeItems fuel ∧
    TakesSame Alike (List.Forall₂ (SameMember Same)) takeMembers fuel := by
  induction fuel with
  | zero =>
    refine ⟨?_, ?_, ?_⟩ <;> intro cs cs' value rest _ taken
    · simp [takeValue] at taken
    · simp [takeItems] at taken
    · simp [takeMembers] at taken
  | succ fuel ih =>
    obtain ⟨values, items, members⟩ := ih
    exact ⟨takeValue_alike steps items members, takeItems_alike steps values items,
      takeMembers_alike steps values members⟩

end

/-! ## More text and more fuel -/

theorem sameMember_eq : SameMember Eq = Eq := by
  funext member other
  exact propext Prod.ext_iff.symm

theorem inStep_append (ends : Ends tail) : InStep (fun _ cs cs' => cs' = cs ++ tail) Eq where
  step alike _ := ⟨_, alike, rfl⟩
  space {cs cs'} alike some_left := by
    obtain ⟨c, ds, starts⟩ := List.exists_cons_of_ne_nil some_left
    rw [alike, skipSpace_append starts, starts, List.cons_append]
  number alike taken := by
    obtain ⟨rest', taken', behind⟩ := takeNumeral_alike (numbersInStep_append ends) taken alike
    exact ⟨_, rest', fun _ => takeValue_of_takeNumeral taken', rfl, behind⟩
  refl _ := rfl
  array same := by
    rw [List.forall₂_eq_eq_eq] at same
    rw [same]
  object same := by
    rw [sameMember_eq, List.forall₂_eq_eq_eq] at same
    rw [same]

/-- What is taken stays the same with more fuel and with more text behind it. -/
theorem takeValue_append {json : Json} (taken : takeValue fuel cs = some (json, rest)) {more : Nat}
    (enough : fuel ≤ more) (ends : Ends tail) :
    takeValue more (cs ++ tail) = some (json, rest ++ tail) := by
  obtain ⟨_, _, taken', rfl, rfl⟩ := (take_alike (inStep_append ends) fuel).1 rfl taken enough
  exact taken'

end

end RowQuery.Json
