import RowQuery.Proofs.Json.Written

/-!
# Numbers put between quotes

A number in a document may be put between quotes without harm to anything else: the document is read
as before, with a text in place of the number. Two documents that differ in quotes around one
numeral are read in step, up to the numeral and behind it.
-/
namespace RowQuery.Json
open Text

/-! ## Numerals in quotes -/

/-- The text of the numeral of an integer. -/
def numeralText (n : Int) : String := String.ofList (signedNumeral n)

/-- The numeral of an integer between quotes. -/
def quoteNumeral (n : Int) : List Char := '"' :: signedNumeral n ++ ['"']

theorem signedNumeral_starts (n : Int) : ∃ c cs, signedNumeral n = c :: cs ∧ StartsNumber c := by
  rw [signedNumeral]
  split
  · exact ⟨_, _, rfl, Or.inl rfl⟩
  · obtain ⟨d, small, cs, starts⟩ := numeral_eq_cons n.natAbs
    exact ⟨_, cs, starts, Or.inr ⟨d, digit?_digitChar small⟩⟩

theorem mem_signedNumeral {n : Int} {c : Char} (member : c ∈ signedNumeral n) :
    c = '-' ∨ ∃ d < 10, c = digitChar d := by
  have digits : c ∈ numeral n.natAbs → ∃ d < 10, c = digitChar d := by
    intro member
    obtain ⟨d, found, rfl⟩ := List.mem_map.1 member
    exact ⟨d, digits_lt _ d found, rfl⟩
  rw [signedNumeral] at member
  split at member
  · exact (List.mem_cons.1 member).imp id digits
  · exact Or.inr (digits member)

/-- No character of a numeral has to be escaped. -/
theorem flatMap_escape_signedNumeral (n : Int) :
    (signedNumeral n).flatMap escape = signedNumeral n := by
  have plain : ∀ c ∈ signedNumeral n, escape c = [c] := by
    intro c member
    rcases mem_signedNumeral member with rfl | ⟨d, small, rfl⟩
    · rfl
    · have all : ∀ d < 10, escape (digitChar d) = [digitChar d] := by decide
      exact all d small
  rw [List.flatMap_congr plain]
  exact List.flatMap_singleton' _

theorem Numeral.write_ofInt (n : Int) : (Numeral.ofInt n).write = signedNumeral n := by
  rw [Numeral.write_eq, Numeral.ofInt, signedNumeral]
  by_cases negative : n < 0 <;> simp [negative, writePlaces, writeExponent, numeral]

theorem takeNumeral_signedNumeral (n : Int) {rest : List Char} (ends : Ends rest) :
    takeNumeral (signedNumeral n ++ rest) = some (.ofInt n, rest) := by
  rw [← Numeral.write_ofInt]
  exact takeNumeral_write (Numeral.canonical_ofInt n) ends

theorem quoteNumeral_append (n : Int) (rest : List Char) :
    quoteNumeral n ++ rest = '"' :: (signedNumeral n ++ '"' :: rest) := by
  simp [quoteNumeral]

theorem takeText_signedNumeral (n : Int) (rest : List Char) :
    takeText (signedNumeral n ++ '"' :: rest) =
      some (some (numeralText n), rest) := by
  have taken := takeText_escaped (numeralText n) rest
  rwa [numeralText, String.toList_ofList, flatMap_escape_signedNumeral] at taken

/-! ## Values -/

mutual

/-- A value, and the same value where numbers may have become the texts of their numeral. -/
inductive Quoted (n : Int) : Json → Json → Prop
  | refl (json : Json) : Quoted n json json
  | number : Quoted n (.ofInt n) (.ofString (numeralText n))
  | array {items others : List Json} (each : QuotedItems n items others) :
      Quoted n (.array items) (.array others)
  | object {members others : List (Option String × Json)}
      (each : QuotedMembers n members others) : Quoted n (.object members) (.object others)

inductive QuotedItems (n : Int) : List Json → List Json → Prop
  | nil : QuotedItems n [] []
  | cons {json other : Json} {items others : List Json} (head : Quoted n json other)
      (tail : QuotedItems n items others) : QuotedItems n (json :: items) (other :: others)

inductive QuotedMembers (n : Int) :
    List (Option String × Json) → List (Option String × Json) → Prop
  | nil : QuotedMembers n [] []
  | cons (key : Option String) {json other : Json} {members others : List (Option String × Json)}
      (head : Quoted n json other) (tail : QuotedMembers n members others) :
      QuotedMembers n ((key, json) :: members) ((key, other) :: others)

end

variable {n : Int}

theorem QuotedItems.of_forall₂ {items others : List Json}
    (each : List.Forall₂ (Quoted n) items others) : QuotedItems n items others := by
  induction each with
  | nil => exact .nil
  | cons head _ ih => exact .cons head ih

theorem QuotedMembers.of_forall₂ {members others : List (Option String × Json)}
    (each : List.Forall₂ (SameMember (Quoted n)) members others) :
    QuotedMembers n members others := by
  induction each with
  | nil => exact .nil
  | @cons member other _ _ head _ ih =>
    obtain ⟨key, json⟩ := member
    obtain ⟨key', other⟩ := other
    obtain ⟨named, same⟩ := head
    cases named
    exact .cons key same ih

/-! ## Documents -/

/-- The place to which characters lead. -/
def Place.after (place : Place) (cs : List Char) : Place := cs.foldl next place

/-- The front of a document, behind which a numeral stands for itself: it ends between texts, and
not within a number. -/
structure Clear (place : Place) (front : List Char) : Prop where
  closed : place.after front = .outside
  apart : ∀ c ∈ front.getLast?, continuesNumber c = false

theorem Clear.tail {place : Place} {c : Char} {front : List Char}
    (clear : Clear place (c :: front)) : Clear (place.next c) front where
  closed := clear.closed
  apart last found := by
    refine clear.apart last ?_
    rw [List.getLast?_cons, Option.mem_def.1 found]
    rfl

/-- Two texts with a numeral behind a front, which is bare in the first and in quotes in the
second. -/
def AheadOf (n : Int) (back front cs cs' : List Char) : Prop :=
  cs = front ++ (signedNumeral n ++ back) ∧ cs' = front ++ (quoteNumeral n ++ back)

variable {back cs cs' : List Char}

/-- A number before the numeral ends before the numeral. -/
theorem numbersInStep_ahead : NumbersInStep fun cs cs' =>
    ∃ c front, Clear .outside (c :: front) ∧ AheadOf n back (c :: front) cs cs' where
  step {c cs cs'} alike := by
    obtain ⟨c, front, clear, same, rfl⟩ := alike
    cases same
    refine ⟨_, rfl, fun continues => ?_⟩
    cases front with
    | nil =>
      have apart := clear.apart c rfl
      rw [apart] at continues
      cases continues
    | cons d front =>
      have other : c ≠ '"' := by
        rintro rfl
        cases continues
      exact ⟨d, front, Place.next_outside other ▸ clear.tail, rfl, rfl⟩
  ends alike := by
    obtain ⟨c, front, -, same, -⟩ := alike
    cases same

theorem skipSpace_signedNumeral (n : Int) (rest : List Char) :
    skipSpace (signedNumeral n ++ rest) = signedNumeral n ++ rest := by
  obtain ⟨c, cs, starts, number⟩ := signedNumeral_starts n
  rw [starts, List.cons_append, skipSpace_cons_of_other number.notSpace]

theorem skipSpace_ahead {front : List Char} (clear : Clear .outside front)
    (ahead : AheadOf n back front cs cs') :
    ∃ front, Clear .outside front ∧ AheadOf n back front (skipSpace cs) (skipSpace cs') := by
  obtain ⟨rfl, rfl⟩ := ahead
  induction front with
  | nil => exact ⟨[], clear, skipSpace_signedNumeral n back, rfl⟩
  | cons c front ih =>
    by_cases space : isSpace c = true
    · have other : c ≠ '"' := by
        rintro rfl
        cases space
      have onward := ih (Place.next_outside other ▸ clear.tail)
      rwa [List.cons_append, List.cons_append, skipSpace_cons_of_space space,
        skipSpace_cons_of_space space]
    · have kept := skipSpace_cons_of_other (Bool.eq_false_iff.2 space)
      exact ⟨c :: front, clear, kept _, kept _⟩

/-- Documents that differ in quotes around one numeral, which is ahead or has been read. -/
theorem inStep_quotes (ends : Ends back) : InStep (fun place cs cs' =>
    (∃ front, Clear place front ∧ AheadOf n back front cs cs') ∨ cs = cs') (Quoted n) where
  step {place c cs cs'} alike noNumber := by
    rcases alike with ⟨front, clear, ahead, rfl⟩ | rfl
    · cases front with
      | nil =>
        obtain ⟨d, ds, starts, number⟩ := signedNumeral_starts n
        rw [starts] at ahead
        cases ahead
        exact absurd number (noNumber clear.closed)
      | cons d front =>
        cases ahead
        exact ⟨_, rfl, Or.inl ⟨front, clear.tail, rfl, rfl⟩⟩
    · exact ⟨cs, rfl, Or.inr rfl⟩
  space {cs cs'} alike _ := by
    rcases alike with ⟨front, clear, ahead⟩ | rfl
    · exact Or.inl (skipSpace_ahead clear ahead)
    · exact Or.inr rfl
  number {cs cs' number rest} alike taken := by
    rcases alike with ⟨front, clear, ahead⟩ | rfl
    · cases front with
      | nil =>
        obtain ⟨rfl, rfl⟩ := ahead
        rw [List.nil_append, takeNumeral_signedNumeral n ends] at taken
        cases taken
        refine ⟨_, back, fun fuel => ?_, .number, Or.inr rfl⟩
        rw [List.nil_append, quoteNumeral_append, takeValue_string rfl, takeText_signedNumeral,
          Option.map_some, ofString]
      | cons c front =>
        obtain ⟨rest', taken', d, front', clear', ahead'⟩ :=
          takeNumeral_alike numbersInStep_ahead taken ⟨c, front, clear, ahead⟩
        exact ⟨_, rest', fun _ => takeValue_of_takeNumeral taken', .refl _,
          Or.inl ⟨d :: front', clear', ahead'⟩⟩
    · exact ⟨_, rest, fun _ => takeValue_of_takeNumeral taken, .refl _, Or.inr rfl⟩
  refl := .refl
  array each := .array (.of_forall₂ each)
  object each := .object (.of_forall₂ each)

/-- A numeral in a document may be put between quotes, where it stands for itself: behind a clear
front, and before what cannot continue a number. -/
theorem readChars?_quoteNumeral {front : List Char} {json : Json} (clear : Clear .outside front)
    (ends : Ends back) (read : readChars? (front ++ (signedNumeral n ++ back)) = some json) :
    ∃ other, readChars? (front ++ (quoteNumeral n ++ back)) = some other ∧ Quoted n json other := by
  obtain ⟨rest, taken, blank⟩ := readChars?_eq_some.1 read
  have longer : (front ++ (signedNumeral n ++ back)).length ≤
      (front ++ (quoteNumeral n ++ back)).length := by
    rw [quoteNumeral_append]
    simp only [List.length_append, List.length_cons]
    omega
  obtain ⟨other, rest', taken', quoted, behind⟩ :=
    (take_alike (inStep_quotes ends) _).1 (Or.inl ⟨front, clear, rfl, rfl⟩) taken
      (show _ ≤ 2 * (front ++ (quoteNumeral n ++ back)).length + 2 by omega)
  refine ⟨other, readChars?_eq_some.2 ⟨rest', taken', ?_⟩, quoted⟩
  rcases behind with ⟨left, clear', ahead⟩ | rfl
  · obtain ⟨front', -, nothing, -⟩ := skipSpace_ahead clear' ahead
    rw [blank] at nothing
    have numeral := (List.append_eq_nil_iff.1 (List.append_eq_nil_iff.1 nothing.symm).2).1
    exact absurd numeral (signedNumeral_ne_nil n)
  · exact blank

theorem read?_quoteNumeral {front back : String} {json : Json}
    (clear : Clear .outside front.toList) (ends : Ends back.toList)
    (read : read? (front ++ numeralText n ++ back) = some json) :
    ∃ other, read? (front ++ "\"" ++ numeralText n ++ "\"" ++ back) = some other ∧
      Quoted n json other := by
  have quote : "\"".toList = ['"'] := by decide
  have bare : (front ++ numeralText n ++ back).toList =
      front.toList ++ (signedNumeral n ++ back.toList) := by
    simp [numeralText]
  have quoted : (front ++ "\"" ++ numeralText n ++ "\"" ++ back).toList =
      front.toList ++ (quoteNumeral n ++ back.toList) := by
    simp [numeralText, quoteNumeral, quote]
  rw [Json.read?, bare] at read
  rw [Json.read?, quoted]
  exact readChars?_quoteNumeral clear ends read

end RowQuery.Json
