import RowQuery.Json.Writer
import RowQuery.Proofs.Json.Steps

/-!
# Written values read back

The text of a value is read as that value. Texts are undone character by character and numerals
digit by digit. The text of an array or an object is the texts of its parts with commas between
them, and each part may be any text that is read as the part, written here or not.
-/
namespace RowQuery.Json
open Text

/-! ## Texts -/

theorem hexUnit?_control {c : Char} (control : c.toNat < 0x20) :
    hexUnit? '0' '0' (hexChar (c.toNat / 16)) (hexChar (c.toNat % 16)) = some (.char c) := by
  have zero : hexDigit? '0' = some 0 := by decide
  have high := hexDigit?_hexChar (d := c.toNat / 16) (by omega)
  have low := hexDigit?_hexChar (d := c.toNat % 16) (by omega)
  have number : ((0 * 16 + 0) * 16 + c.toNat / 16) * 16 + c.toNat % 16 = c.toNat := by omega
  simp only [hexUnit?, zero, high, low, Option.bind_eq_bind, Option.bind_some, Option.pure_def,
    number]
  rw [TextUnit.ofNat, if_neg (by omega), Char.ofNat_toNat]

/-- A character is written as a letter after a backslash, by its number, or as it is. -/
theorem escape_cases (c : Char) :
    (∃ letter, escape c = ['\\', letter] ∧ simpleEscape? letter = some c) ∨
      (c.toNat < 0x20 ∧ escape c =
        ['\\', 'u', '0', '0', hexChar (c.toNat / 16), hexChar (c.toNat % 16)]) ∨
      c ≠ '"' ∧ c ≠ '\\' ∧ ¬ c.toNat < 0x20 ∧ escape c = [c] := by
  by_cases quote : c = '"'
  · exact Or.inl ⟨'"', by rw [quote]; rfl, by rw [quote]; rfl⟩
  by_cases slash : c = '\\'
  · exact Or.inl ⟨'\\', by rw [slash]; rfl, by rw [slash]; rfl⟩
  by_cases back : c = '\x08'
  · exact Or.inl ⟨'b', by rw [back]; rfl, by rw [back]; rfl⟩
  by_cases feed : c = '\x0c'
  · exact Or.inl ⟨'f', by rw [feed]; rfl, by rw [feed]; rfl⟩
  by_cases line : c = '\n'
  · exact Or.inl ⟨'n', by rw [line]; rfl, by rw [line]; rfl⟩
  by_cases carriage : c = '\r'
  · exact Or.inl ⟨'r', by rw [carriage]; rfl, by rw [carriage]; rfl⟩
  by_cases tab : c = '\t'
  · exact Or.inl ⟨'t', by rw [tab]; rfl, by rw [tab]; rfl⟩
  rw [escape, if_neg quote, if_neg slash, if_neg back, if_neg feed, if_neg line, if_neg carriage,
    if_neg tab]
  by_cases control : c.toNat < 0x20
  · exact Or.inr (Or.inl ⟨control, if_pos control⟩)
  · exact Or.inr (Or.inr ⟨quote, slash, control, if_neg control⟩)

theorem takeUnits_escape (c : Char) (cs : List Char) :
    takeUnits (escape c ++ cs) =
      (takeUnits cs).map fun (units, rest) => (.char c :: units, rest) := by
  rcases escape_cases c with ⟨letter, form, meant⟩ | ⟨control, form⟩ | ⟨quote, slash, visible, form⟩
  · rw [form]
    exact takeUnits_simple meant cs
  · rw [form]
    exact takeUnits_hex (hexUnit?_control control) cs
  · rw [form]
    exact takeUnits_literal quote slash visible cs

theorem takeUnits_flatMap_escape (cs rest : List Char) :
    takeUnits (cs.flatMap escape ++ '"' :: rest) = some (cs.map .char, rest) := by
  induction cs with
  | nil => rfl
  | cons c cs ih =>
    rw [List.flatMap_cons, List.append_assoc, takeUnits_escape, ih]
    rfl

theorem pairUnits?_map_char (cs : List Char) : pairUnits? (cs.map .char) = some cs := by
  induction cs with
  | nil => rfl
  | cons c cs ih => rw [List.map_cons, pairUnits?, ih, Option.map_some]

/-- A written text after its opening quote. -/
theorem takeText_escaped (s : String) (rest : List Char) :
    takeText (s.toList.flatMap escape ++ '"' :: rest) = some (some s, rest) := by
  rw [takeText, takeUnits_flatMap_escape, Option.map_some]
  dsimp only
  rw [pairUnits?_map_char, Option.map_some, String.ofList_toList]

theorem writeText_append (s : String) (rest : List Char) :
    writeText s ++ rest = '"' :: (s.toList.flatMap escape ++ '"' :: rest) := by
  simp [writeText]

/-! ## Numbers -/

/-- The digits stand as they do in the text of a number. -/
structure Numeral.Canonical (n : Numeral) : Prop where
  some_digit : n.whole ≠ []
  whole_lt : ∀ d ∈ n.whole, d < 10
  leading : ∀ ds, n.whole = 0 :: ds → ds = []
  places_lt : ∀ d ∈ n.places, d < 10

theorem Numeral.canonical_ofInt (n : Int) : (Numeral.ofInt n).Canonical where
  some_digit := digits_ne_nil _
  whole_lt := digits_lt _
  leading _ zero := eq_nil_of_digits_eq_zero_cons zero
  places_lt _ member := absurd member List.not_mem_nil

theorem takeWhole_map_digitChar {ds : List Nat} (some_digit : ds ≠ []) (small : ∀ d ∈ ds, d < 10)
    (leading : ∀ more, ds = 0 :: more → more = []) {rest : List Char} (stop : NoDigit rest) :
    takeWhole (ds.map digitChar ++ rest) = some (ds, rest) := by
  rw [takeWhole, takeAllDigits_map_digitChar small stop]
  split
  · rename_i same
    exact absurd (Prod.mk.inj same).1 some_digit
  · rename_i same
    cases leading _ (Prod.mk.inj same).1
  · rename_i same
    exact congrArg some same.symm

/-- The text of the part after a point. -/
def writePlaces (ds : List Nat) : List Char := if ds.isEmpty then [] else '.' :: ds.map digitChar

theorem takePlaces_writePlaces {ds : List Nat} (small : ∀ d ∈ ds, d < 10) {rest : List Char}
    (stop : NoDigit rest) (point : ∀ more, rest ≠ '.' :: more) :
    takePlaces (writePlaces ds ++ rest) = some (ds, rest) := by
  cases ds with
  | nil =>
    rw [writePlaces, List.isEmpty_nil, if_pos rfl, List.nil_append, takePlaces]
    exact fun more starts => point more starts
  | cons d ds =>
    rw [writePlaces, List.isEmpty_cons, if_neg Bool.false_ne_true, List.cons_append, takePlaces,
      takeAllDigits_map_digitChar small stop]

/-- The text of an exponent. -/
def writeExponent : Option Int → List Char
  | none => []
  | some e => 'e' :: signedNumeral e

theorem takeExponentDigits_numeral (negative : Bool) (n : Nat) {rest : List Char}
    (stop : NoDigit rest) : takeExponentDigits negative (numeral n ++ rest) =
      some (some (if negative then -(n : Int) else n), rest) := by
  obtain ⟨d, ds, found⟩ := List.exists_cons_of_ne_nil (digits_ne_nil n)
  have value := ofDigits_digits n
  rw [takeExponentDigits, numeral, takeAllDigits_map_digitChar (digits_lt n) stop]
  rw [found] at value ⊢
  dsimp only
  rw [value]

theorem takeExponent_writeExponent (exponent : Option Int) {rest : List Char} (ends : Ends rest) :
    takeExponent (writeExponent exponent ++ rest) = some (exponent, rest) := by
  cases exponent with
  | none =>
    have nothing : takeExponent [] = some (none, []) := rfl
    obtain ⟨_, taken, rfl⟩ := takeExponent_alike (numbersInStep_append ends) nothing rfl
    exact taken
  | some e =>
    rw [writeExponent, List.cons_append]
    unfold takeExponent
    dsimp only
    rw [if_pos (Or.inl rfl)]
    by_cases negative : e < 0
    · have value : -(e.natAbs : Int) = e := by omega
      have read := takeExponentDigits_numeral true e.natAbs ends.noDigit
      rw [if_pos rfl, value] at read
      rw [signedNumeral, if_pos negative, List.cons_append]
      exact read
    · have value : (e.natAbs : Int) = e := by omega
      have read := takeExponentDigits_numeral false e.natAbs ends.noDigit
      rw [if_neg Bool.false_ne_true, value] at read
      rw [signedNumeral, if_neg negative]
      obtain ⟨d, small, cs, starts⟩ := numeral_eq_cons e.natAbs
      rw [starts] at read ⊢
      split
      · rename_i minus
        exact absurd (List.cons.inj minus).1 (digitChar_ne small rfl)
      · rename_i plus
        exact absurd (List.cons.inj plus).1 (digitChar_ne small rfl)
      · exact read

theorem Numeral.write_eq (n : Numeral) : n.write =
    (if n.negative then ['-'] else []) ++ n.whole.map digitChar ++ writePlaces n.places ++
      writeExponent n.exponent := by
  rw [Numeral.write, writePlaces]
  cases n.exponent <;> rfl

theorem takeNumeral_write {n : Numeral} (canonical : n.Canonical) {tail : List Char}
    (ends : Ends tail) : takeNumeral (n.write ++ tail) = some (n, tail) := by
  have afterPlaces : NoDigit (writeExponent n.exponent ++ tail) ∧
      ∀ more, writeExponent n.exponent ++ tail ≠ '.' :: more := by
    cases n.exponent with
    | none => exact ⟨ends.noDigit, fun more starts => (ends _ more starts).2.1 rfl⟩
    | some e => exact ⟨noDigit_cons (by decide) _, fun more starts => by cases starts⟩
  have afterWhole : NoDigit (writePlaces n.places ++ (writeExponent n.exponent ++ tail)) := by
    rw [writePlaces]
    split
    · exact afterPlaces.1
    · exact noDigit_cons (by decide) _
  have unsigned : ∀ negative, takeUnsigned negative (n.whole.map digitChar ++
      (writePlaces n.places ++ (writeExponent n.exponent ++ tail))) =
        some (⟨negative, n.whole, n.places, n.exponent⟩, tail) := by
    intro negative
    simp only [takeUnsigned, takeWhole_map_digitChar canonical.some_digit canonical.whole_lt
      canonical.leading afterWhole, takePlaces_writePlaces canonical.places_lt afterPlaces.1
      afterPlaces.2, takeExponent_writeExponent _ ends, Option.bind_eq_bind, Option.bind_some,
      Option.pure_def]
  obtain ⟨negative, whole, places, exponent⟩ := n
  rw [Numeral.write_eq]
  simp only [List.append_assoc]
  cases negative with
  | true => exact unsigned true
  | false =>
    obtain ⟨d, small, cs, starts⟩ := map_digitChar_eq_cons canonical.some_digit canonical.whole_lt
    have read := unsigned false
    dsimp only at starts read ⊢
    rw [starts] at read ⊢
    rw [if_neg Bool.false_ne_true, List.nil_append, List.cons_append, takeNumeral]
    · exact read
    · intro _ minus
      exact digitChar_ne small rfl (List.cons.inj minus).1

/-! ## Whole documents -/

theorem skipSpace_append_of_nil {left : List Char} (blank : skipSpace left = [])
    (tail : List Char) : skipSpace (left ++ tail) = skipSpace tail := by
  rw [skipSpace] at blank
  rw [skipSpace, List.dropWhile_append, if_pos (by simp [blank]), skipSpace]

variable {cs rest tail : List Char} {fuel : Nat} {json : Json}

theorem readChars?_eq_some : readChars? cs = some json ↔
    ∃ rest, takeValue (2 * cs.length + 2) cs = some (json, rest) ∧ skipSpace rest = [] := by
  rw [readChars?]
  split
  · rename_i found rest taken
    rw [taken]
    constructor
    · intro whole
      split at whole
      · rename_i blank
        cases whole
        exact ⟨rest, rfl, List.isEmpty_iff.1 blank⟩
      · cases whole
    · rintro ⟨_, same, blank⟩
      cases same
      rw [blank]
      rfl
  · rename_i fails
    rw [fails]
    constructor
    · intro whole
      cases whole
    · rintro ⟨_, same, -⟩
      cases same

/-- A document is read in the same way as a part of a longer text. -/
theorem takeValue_of_readChars? (fuel : Nat) (read : readChars? cs = some json)
    (enough : 2 * cs.length + 2 ≤ fuel) (ends : Ends tail) :
    ∃ left, takeValue fuel (cs ++ tail) = some (json, left ++ tail) ∧
      skipSpace (left ++ tail) = skipSpace tail := by
  obtain ⟨left, taken, blank⟩ := readChars?_eq_some.1 read
  exact ⟨left, takeValue_append taken enough ends, skipSpace_append_of_nil blank tail⟩

theorem readChars?_of_takeValue (taken : takeValue (2 * cs.length + 2) cs = some (json, [])) :
    readChars? cs = some json :=
  readChars?_eq_some.2 ⟨[], taken, rfl⟩

/-! ## Arrays and objects -/

section
variable {α : Type} {key : α → String} {text : α → List Char} {value : α → Json} {parts : List α}

/-- Texts with commas between them. -/
def commas (texts : List (List Char)) : List Char := [','].intercalate texts

/-- The text of a member, where its value has the given text. -/
def memberText (key : String) (cs : List Char) : List Char := writeText key ++ ':' :: cs

theorem commas_cons (first : List Char) (texts : List (List Char)) (more : texts ≠ []) :
    commas (first :: texts) = first ++ ',' :: commas texts := by
  rw [commas, List.intercalate_cons_of_ne_nil more, List.append_assoc]
  rfl

theorem ends_comma (cs : List Char) : Ends (',' :: cs) := ends_cons (by decide) cs

theorem ends_bracket (cs : List Char) : Ends (']' :: cs) := ends_cons (by decide) cs

theorem ends_brace (cs : List Char) : Ends ('}' :: cs) := ends_cons (by decide) cs

theorem takeItems_commas (fuel : Nat) (some_part : parts ≠ [])
    (read : ∀ part ∈ parts, readChars? (text part) = some (value part))
    (enough : 2 * (commas (parts.map text)).length + 3 ≤ fuel) (tail : List Char) :
    takeItems fuel (commas (parts.map text) ++ ']' :: tail) = some (parts.map value, tail) := by
  induction parts generalizing fuel with
  | nil => exact absurd rfl some_part
  | cons part parts ih =>
    obtain ⟨fuel, rfl, above⟩ := exists_succ_of_lt enough
    refine takeItems_succ.2 ?_
    cases parts with
    | nil =>
      have whole : commas ([part].map text) = text part := List.intercalate_singleton
      rw [whole] at above ⊢
      obtain ⟨left, taken, onward⟩ := takeValue_of_readChars? fuel (read part List.mem_cons_self)
        above (ends_bracket tail)
      exact ⟨_, _, taken, Or.inr ⟨onward, rfl⟩⟩
    | cons next parts =>
      have whole := commas_cons (text part) ((next :: parts).map text) (List.cons_ne_nil _ _)
      rw [List.map_cons, whole] at above ⊢
      rw [List.length_append, List.length_cons] at above
      rw [List.append_assoc, List.cons_append]
      obtain ⟨left, taken, onward⟩ := takeValue_of_readChars? fuel (read part List.mem_cons_self)
        (by omega) (ends_comma (commas ((next :: parts).map text) ++ ']' :: tail))
      have others := ih fuel (List.cons_ne_nil _ _)
        (fun part member => read part (List.mem_cons_of_mem _ member)) (by omega)
      exact ⟨_, _, taken, Or.inl ⟨_, _, onward, others, rfl⟩⟩

/-- An array whose items are documents of their own. -/
theorem readChars?_array (read : ∀ part ∈ parts, readChars? (text part) = some (value part)) :
    readChars? ('[' :: commas (parts.map text) ++ [']']) = some (.array (parts.map value)) := by
  apply readChars?_of_takeValue
  cases parts with
  | nil => rfl
  | cons part parts =>
    generalize whole : commas ((part :: parts).map text) = inside
    have fuels : 2 * ('[' :: inside ++ [']']).length + 2 = (2 * inside.length + 5) + 1 := by
      rw [List.length_append, List.length_cons, List.length_singleton]
      omega
    have enough : 2 * (commas ((part :: parts).map text)).length + 3 ≤ 2 * inside.length + 5 := by
      rw [whole]
      omega
    have items := takeItems_commas _ (List.cons_ne_nil part parts) read enough []
    rw [whole] at items
    rw [fuels]
    exact takeValue_items rfl items

/-- The texts of members. -/
def memberTexts (key : α → String) (text : α → List Char) (parts : List α) : List (List Char) :=
  parts.map fun part => memberText (key part) (text part)

theorem takeMembers_commas (fuel : Nat) (some_part : parts ≠ [])
    (read : ∀ part ∈ parts, readChars? (text part) = some (value part))
    (enough : 2 * (commas (memberTexts key text parts)).length + 3 ≤ fuel) (tail : List Char) :
    takeMembers fuel (commas (memberTexts key text parts) ++ '}' :: tail) =
      some (parts.map fun part => (some (key part), value part), tail) := by
  induction parts generalizing fuel with
  | nil => exact absurd rfl some_part
  | cons part parts ih =>
    obtain ⟨fuel, rfl, above⟩ := exists_succ_of_lt enough
    refine takeMembers_succ.2 ?_
    have member : ∀ rest, memberText (key part) (text part) ++ rest =
        '"' :: ((key part).toList.flatMap escape ++ '"' :: (':' :: (text part ++ rest))) := by
      intro rest
      rw [memberText, List.append_assoc, writeText_append, List.cons_append]
    have long : (text part).length ≤ (memberText (key part) (text part)).length := by
      rw [memberText, List.length_append, List.length_cons]
      omega
    cases parts with
    | nil =>
      have whole : commas (memberTexts key text [part]) = memberText (key part) (text part) :=
        List.intercalate_singleton
      rw [whole] at above ⊢
      rw [member]
      obtain ⟨left, taken, onward⟩ := takeValue_of_readChars? fuel (read part List.mem_cons_self)
        (by omega) (ends_brace tail)
      exact ⟨_, _, _, _, _, _, rfl, takeText_escaped _ _, rfl, taken, Or.inr ⟨onward, rfl⟩⟩
    | cons next parts =>
      have whole := commas_cons (memberText (key part) (text part))
        (memberTexts key text (next :: parts)) (List.cons_ne_nil _ _)
      rw [memberTexts, List.map_cons, ← memberTexts, whole] at above ⊢
      rw [List.length_append, List.length_cons] at above
      rw [List.append_assoc, List.cons_append, member]
      obtain ⟨left, taken, onward⟩ := takeValue_of_readChars? fuel (read part List.mem_cons_self)
        (by omega) (ends_comma (commas (memberTexts key text (next :: parts)) ++ '}' :: tail))
      have others := ih fuel (List.cons_ne_nil _ _)
        (fun part member => read part (List.mem_cons_of_mem _ member)) (by omega)
      exact ⟨_, _, _, _, _, _, rfl, takeText_escaped _ _, rfl, taken,
        Or.inl ⟨_, _, onward, others, rfl⟩⟩

/-- An object whose members hold documents of their own. -/
theorem readChars?_object (key : α → String)
    (read : ∀ part ∈ parts, readChars? (text part) = some (value part)) :
    readChars? ('{' :: commas (memberTexts key text parts) ++ ['}']) =
      some (.object (parts.map fun part => (some (key part), value part))) := by
  apply readChars?_of_takeValue
  cases parts with
  | nil => rfl
  | cons part parts =>
    generalize whole : commas (memberTexts key text (part :: parts)) = inside
    have fuels : 2 * ('{' :: inside ++ ['}']).length + 2 = (2 * inside.length + 5) + 1 := by
      rw [List.length_append, List.length_cons, List.length_singleton]
      omega
    have enough : 2 * (commas (memberTexts key text (part :: parts))).length + 3 ≤
        2 * inside.length + 5 := by
      rw [whole]
      omega
    have members := takeMembers_commas _ (List.cons_ne_nil part parts) read enough []
    rw [whole] at members
    rw [fuels]
    exact takeValue_members rfl members

end

/-! ## Values -/

/-- A value that has a text of its own: its numbers stand as they are written, and its texts and the
names of its members have characters. -/
inductive Writable : Json → Prop
  | null : Writable .null
  | bool (b : Bool) : Writable (.bool b)
  | number {n : Numeral} (canonical : n.Canonical) : Writable (.number n)
  | string (s : String) : Writable (ofString s)
  | array {items : List Json} (each : ∀ item ∈ items, Writable item) : Writable (.array items)
  | object {members : List (String × Json)} (each : ∀ member ∈ members, Writable member.2) :
      Writable (ofMembers members)

theorem writeItems_eq (items : List Json) : writeItems items = commas (items.map write) := by
  induction items with
  | nil => rfl
  | cons item items ih =>
    cases items with
    | nil =>
      rw [writeItems]
      exact List.intercalate_singleton.symm
    | cons next items =>
      have whole := commas_cons item.write ((next :: items).map write) (List.cons_ne_nil _ _)
      rw [writeItems, ih]
      · exact whole.symm
      · exact List.cons_ne_nil _ _

theorem writeMembers_eq (members : List (String × Json)) :
    writeMembers (members.map fun (key, value) => (some key, value)) =
      commas (memberTexts Prod.fst (fun member => member.2.write) members) := by
  induction members with
  | nil => rfl
  | cons member members ih =>
    cases members with
    | nil =>
      rw [List.map_cons, List.map_nil, writeMembers]
      exact List.intercalate_singleton.symm
    | cons next members =>
      have whole := commas_cons (memberText member.1 member.2.write)
        (memberTexts Prod.fst (fun member => member.2.write) (next :: members))
        (List.cons_ne_nil _ _)
      rw [List.map_cons, writeMembers, ih, Option.getD_some]
      · exact whole.symm
      · exact List.cons_ne_nil _ _

/-- By induction on the value: each part is a document of its own. -/
theorem readChars?_write (writable : Writable json) : readChars? json.write = some json := by
  induction writable with
  | null => rfl
  | bool b => cases b <;> rfl
  | @number n canonical =>
    have taken : takeNumeral (n.write ++ []) = some (n, []) :=
      takeNumeral_write canonical fun c rest starts => by cases starts
    rw [List.append_nil] at taken
    exact readChars?_of_takeValue (takeValue_of_takeNumeral taken)
  | string s =>
    apply readChars?_of_takeValue
    rw [ofString, write, writeText, List.cons_append, takeValue_string rfl, takeText_escaped]
    rfl
  | @array items _ ih =>
    have read : readChars? ('[' :: commas (items.map write) ++ [']']) =
        some (.array (items.map id)) := readChars?_array ih
    rwa [← writeItems_eq, List.map_id] at read
  | @object members _ ih =>
    have read : readChars? ('{' :: commas (memberTexts Prod.fst (fun member => member.2.write)
        members) ++ ['}']) = some (ofMembers members) := readChars?_object Prod.fst ih
    rwa [← writeMembers_eq] at read

end RowQuery.Json
