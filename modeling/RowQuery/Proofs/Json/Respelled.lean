import Mathlib.Data.List.Forall2
import RowQuery.Filter.Compiler
import RowQuery.Proofs.Json.Documents
import RowQuery.Proofs.Json.Quoted

/-!
# Bounds as numbers and as texts

A bound of a filter may stand in a document as a number or as a text. For an integer of 64 bits,
with a sign or without, it makes no difference: the number is read exactly, and written out again
with the digits it came with. Beyond, it becomes a floating number and is written otherwise.

A record is decoded field by field, so that it stays the same when a field is exchanged for one that
is decoded alike, wherever the field stands and whatever stands beside it.
-/
namespace RowQuery.Json
open Text

/-! ## Numerals of 64 bits -/

/-- The integers of 64 bits, with a sign or without. -/
def Fits64 (n : Int) : Prop := -twoPow 63 ≤ n ∧ n < twoPow 64

theorem write_number?_ofInt {n : Int} (fits : Fits64 n) :
    ∃ x, (Numeral.ofInt n).number? = some x ∧ x.write = signedNumeral n := by
  obtain ⟨low, high⟩ := fits
  have whole : ofDigits (Numeral.ofInt n).whole = n.natAbs := ofDigits_digits _
  have integer : (Numeral.ofInt n).isInteger = true := rfl
  simp only [Numeral.number?, whole, integer, Bool.true_and]
  by_cases negative : n < 0
  · have sign : (Numeral.ofInt n).negative = true := decide_eq_true negative
    have some_digit : (n.natAbs != 0) = true := bne_iff_ne.2 (by omega)
    have small : decide (n.natAbs ≤ twoPow 63) = true := decide_eq_true (by omega)
    have value : -(n.natAbs : Int) = n := by omega
    refine ⟨.int n, ?_, rfl⟩
    simp only [sign, some_digit, small, Bool.not_true, Bool.false_and, Bool.true_and,
      Bool.false_eq_true, if_false, if_true]
    rw [value]
  · have sign : (Numeral.ofInt n).negative = false := decide_eq_false negative
    have small : decide (n.natAbs < natLimit) = true := decide_eq_true (by rw [natLimit]; omega)
    refine ⟨.nat n.natAbs, ?_, by rw [Number.write, signedNumeral, if_neg negative]⟩
    simp only [sign, small, Bool.not_false, Bool.true_and, if_true]

/-- An integer of 64 bits keeps its digits on its way through a number. -/
theorem scalarText?_ofInt {n : Int} (fits : Fits64 n) :
    scalarText? (.ofInt n) = some (numeralText n) := by
  obtain ⟨x, number, written⟩ := write_number?_ofInt fits
  rw [ofInt, scalarText?, number, Option.map_some, written, numeralText]

/-- The text of a floating number has a point or an exponent. -/
theorem mem_write_float (x : Binary64) :
    '.' ∈ (Number.float x).write ∨ 'e' ∈ (Number.float x).write := by
  have part : ∀ s, '.' ∈ writeScientific s ∨ 'e' ∈ writeScientific s := by
    intro s
    unfold writeScientific
    dsimp only
    split
    · exact Or.inr (by simp)
    · split
      · exact Or.inl (by simp)
      · exact Or.inl (by simp [pointAfter])
  exact (part _).imp (List.mem_append_right _) (List.mem_append_right _)

theorem number?_ofInt_of_not_fits {n : Int} (beyond : ¬ Fits64 n) :
    (Numeral.ofInt n).number? = (Numeral.ofInt n).float?.map .float := by
  have whole : ofDigits (Numeral.ofInt n).whole = n.natAbs := ofDigits_digits _
  have sign : (Numeral.ofInt n).negative = decide (n < 0) := rfl
  rw [Numeral.number?, whole, sign, if_neg, if_neg]
  · intro least
    simp only [Bool.and_eq_true, decide_eq_true_iff] at least
    obtain ⟨⟨⟨-, negative⟩, -⟩, small⟩ := least
    exact beyond ⟨by omega, by omega⟩
  · intro greatest
    simp only [Bool.and_eq_true, Bool.not_eq_true', decide_eq_false_iff_not] at greatest
    obtain ⟨⟨-, positive⟩, small⟩ := greatest
    have within : n.natAbs < twoPow 64 := of_decide_eq_true small
    exact beyond ⟨by omega, by omega⟩

/-- Beyond 64 bits a number is floating, and comes back with other characters, if at all. -/
theorem scalarText?_ofInt_iff (n : Int) :
    scalarText? (.ofInt n) = some (numeralText n) ↔ Fits64 n := by
  refine ⟨fun kept => ?_, scalarText?_ofInt⟩
  by_contra beyond
  rw [ofInt, scalarText?, number?_ofInt_of_not_fits beyond, Option.map_map] at kept
  obtain ⟨x, -, same⟩ := Option.map_eq_some_iff.1 kept
  have characters : (Number.float x).write = signedNumeral n := String.ofList_injective same
  have digits : ∀ c, c ∈ (Number.float x).write → c ≠ '.' ∧ c ≠ 'e' := by
    intro c member
    rw [characters] at member
    rcases mem_signedNumeral member with rfl | ⟨d, small, rfl⟩
    · decide
    · exact ⟨digitChar_ne small (by decide), digitChar_ne small (by decide)⟩
  rcases mem_write_float x with point | exponent
  · exact (digits _ point).1 rfl
  · exact (digits _ exponent).2 rfl

/-! ## Records that differ in some fields -/

section
variable {α β : Type}

theorem mapM_congr_forall₂ {f g : α → Option β} {xs ys : List α}
    (each : List.Forall₂ (fun x y => f x = g y) xs ys) : xs.mapM f = ys.mapM g := by
  induction each with
  | nil => rfl
  | cons head tail ih => rw [List.mapM_cons, List.mapM_cons, head, ih]

theorem bind_eq_of_rel {r : α → α → Prop} {x y : Option α} {f : α → Option β}
    (related : Option.Rel r x y) (alike : ∀ a b, r a b → f a = f b) : x.bind f = y.bind f := by
  cases related with
  | none => rfl
  | some together => exact alike _ _ together

end

section
variable (exchange : String → Json → Json → Prop)

/-- Two members with one name, which hold the same or what may be exchanged under that name. -/
def MemberExchanged (member other : String × Json) : Prop :=
  member.1 = other.1 ∧ (member.2 = other.2 ∨ exchange member.1 member.2 other.2)

/-- A field and what it may be exchanged for under one of its names. -/
inductive FieldExchanged (names : List String) : Option Json → Option Json → Prop
  | same (value : Option Json) : FieldExchanged names value value
  | exchanged {name : String} {json other : Json} (named : name ∈ names)
      (alike : exchange name json other) : FieldExchanged names (some json) (some other)

inductive FieldsExchanged : List (List String) → List (Option Json) → List (Option Json) → Prop
  | nil : FieldsExchanged [] [] []
  | cons {names : List String} {fieldNames : List (List String)} {value other : Option Json}
      {values others : List (Option Json)} (field : FieldExchanged exchange names value other)
      (rest : FieldsExchanged fieldNames values others) :
      FieldsExchanged (names :: fieldNames) (value :: values) (other :: others)

/-- Two records that are the same but for fields that may be exchanged, both with their fields by
name, in one order, or both with their fields by place. -/
inductive Exchanged (fieldNames : List (List String)) : Json → Json → Prop
  | object {members others : List (String × Json)}
      (each : List.Forall₂ (MemberExchanged exchange) members others) :
      Exchanged fieldNames (ofMembers members) (ofMembers others)
  | array {items others : List Json}
      (each : FieldsExchanged exchange fieldNames (items.map some) (others.map some)) :
      Exchanged fieldNames (.array items) (.array others)

end

section
variable {exchange : String → Json → Json → Prop} {names : List String}
  {fieldNames : List (List String)}

theorem field?_exchanged {members others : List (String × Json)}
    (each : List.Forall₂ (MemberExchanged exchange) members others) :
    Option.Rel (FieldExchanged exchange names) (field? names members) (field? names others) := by
  have found : List.Forall₂ (MemberExchanged exchange)
      (members.filter fun entry => names.contains entry.1)
      (others.filter fun entry => names.contains entry.1) :=
    List.rel_filter (fun _ _ exchanged => iff_of_eq (by dsimp only; rw [exchanged.1])) each
  have named : ∀ entry ∈ members.filter fun entry => names.contains entry.1, entry.1 ∈ names :=
    fun entry member => by simpa using (List.mem_filter.1 member).2
  rw [field?, field?]
  generalize members.filter (fun entry => names.contains entry.1) = left at found named
  generalize others.filter (fun entry => names.contains entry.1) = right at found
  cases found with
  | nil => exact .some (.same none)
  | cons head tail =>
    cases tail with
    | nil =>
      obtain ⟨-, same | alike⟩ := head
      · exact .some (same ▸ .same _)
      · exact .some (.exchanged (named _ List.mem_cons_self) alike)
    | cons => exact .none

/-- By induction on the fields: each is found in both records or in neither. -/
theorem mapM_field?_exchanged {members others : List (String × Json)}
    (each : List.Forall₂ (MemberExchanged exchange) members others) :
    Option.Rel (FieldsExchanged exchange fieldNames)
      (fieldNames.mapM fun names => field? names members)
      (fieldNames.mapM fun names => field? names others) := by
  induction fieldNames with
  | nil => exact .some .nil
  | cons names fieldNames ih =>
    have head : Option.Rel (FieldExchanged exchange names) _ _ := field?_exchanged each
    rw [List.mapM_cons, List.mapM_cons]
    generalize field? names members = value at head ⊢
    generalize field? names others = other at head ⊢
    cases head with
    | none => exact .none
    | some field =>
      generalize (fieldNames.mapM fun names => field? names members) = values at ih ⊢
      generalize (fieldNames.mapM fun names => field? names others) = others at ih ⊢
      cases ih with
      | none => exact .none
      | some fields => exact .some (.cons field fields)

theorem FieldsExchanged.length {values others : List (Option Json)}
    (fields : FieldsExchanged exchange fieldNames values others) :
    values.length = fieldNames.length ∧ others.length = fieldNames.length := by
  induction fields with
  | nil => exact ⟨rfl, rfl⟩
  | cons _ _ ih => exact ⟨congrArg Nat.succ ih.1, congrArg Nat.succ ih.2⟩

theorem fields?_exchanged {json other : Json} (exchanged : Exchanged exchange fieldNames json other)
    (least : Nat) : Option.Rel (FieldsExchanged exchange fieldNames)
      (fields? least fieldNames json) (fields? least fieldNames other) := by
  cases exchanged with
  | object each =>
    rw [fields?_ofMembers, fields?_ofMembers]
    exact mapM_field?_exchanged each
  | array each =>
    have long := each.length
    rw [List.length_map, List.length_map] at long
    rw [fields?, fields?, long.1, long.2]
    split
    · rw [Nat.sub_self, List.replicate_zero, List.append_nil, List.append_nil]
      exact .some each
    · exact .none

/-- A field that is known under none of the names of what may be exchanged. -/
theorem FieldExchanged.same_of {value other : Option Json}
    (field : FieldExchanged exchange names value other) {touched : List String}
    (only : ∀ name x y, exchange name x y → name ∈ touched)
    (apart : ∀ name ∈ names, name ∉ touched) : value = other := by
  cases field with
  | same => rfl
  | exchanged named alike => exact absurd (only _ _ _ alike) (apart _ named)

theorem FieldExchanged.decode_eq {β : Type} {value other : Option Json}
    {decode : Option Json → β} (field : FieldExchanged exchange names value other)
    (alike : ∀ name ∈ names, ∀ x y, exchange name x y → decode (some x) = decode (some y)) :
    decode value = decode other := by
  cases field with
  | same => rfl
  | exchanged named same => exact alike _ named _ _ same

end
end RowQuery.Json

namespace RowQuery
open Json

/-! ## Conditions and filters -/

/-- A bound that is a number, and the same bound as a text. -/
inductive BoundRespelled (n : Int) (name : String) : Json → Json → Prop
  | mk (bound : name ∈ ["filter", "filterTo"]) :
      BoundRespelled n name (.ofInt n) (.ofString (numeralText n))

variable {n : Int}

theorem BoundRespelled.name_mem :
    ∀ name x y, BoundRespelled n name x y → name ∈ ["filter", "filterTo"]
  | _, _, _, .mk bound => bound

theorem BoundRespelled.optional?_eq (fits : Fits64 n) : ∀ name x y, BoundRespelled n name x y →
    optional? scalarText? (some x) = optional? scalarText? (some y)
  | _, _, _, .mk _ => congrArg (Option.map some) ((scalarText?_ofInt_iff n).2 fits)

namespace ConditionModel

/-- Two documents of a condition that are the same but for bounds, which are the number in the first
and its text in the second. -/
def Respelled (n : Int) : Json → Json → Prop := Exchanged (BoundRespelled n) fieldNames

theorem ofFields?_exchanged (fits : Fits64 n) {values others : List (Option Json)}
    (fields : FieldsExchanged (BoundRespelled n) fieldNames values others) :
    ofFields? values = ofFields? others := by
  obtain _ | ⟨kind, _ | ⟨operator, _ | ⟨filter, _ | ⟨filterTo, _ | ⟨dateFrom, _ | ⟨dateTo,
    _ | ⟨set, _ | _⟩⟩⟩⟩⟩⟩⟩ := fields
  obtain rfl := kind.same_of BoundRespelled.name_mem (by decide)
  obtain rfl := operator.same_of BoundRespelled.name_mem (by decide)
  obtain rfl := dateFrom.same_of BoundRespelled.name_mem (by decide)
  obtain rfl := dateTo.same_of BoundRespelled.name_mem (by decide)
  obtain rfl := set.same_of BoundRespelled.name_mem (by decide)
  simp only [ofFields?, filter.decode_eq fun name _ => BoundRespelled.optional?_eq fits name,
    filterTo.decode_eq fun name _ => BoundRespelled.optional?_eq fits name]

theorem ofJson?_respelled (fits : Fits64 n) {json other : Json}
    (respelled : Respelled n json other) : ofJson? json = ofJson? other :=
  bind_eq_of_rel (fields?_exchanged respelled 7) fun _ _ fields => ofFields?_exchanged fits fields

end ConditionModel

namespace FilterModel

/-- What may differ in a filter: a bound of its own, or bounds of its conditions. -/
inductive PartRespelled (n : Int) (name : String) : Json → Json → Prop
  | bound {x y : Json} (respelled : BoundRespelled n name x y) : PartRespelled n name x y
  | conditions (named : name = "conditions") {items others : List Json}
      (each : List.Forall₂ (fun item other => item = other ∨ ConditionModel.Respelled n item other)
        items others) : PartRespelled n name (.array items) (.array others)

/-- Two documents of a filter that are the same but for bounds, in the filter itself or in its
conditions, which are the number in the first and its text in the second. -/
def Respelled (n : Int) : Json → Json → Prop := Exchanged (PartRespelled n) fieldNames

theorem PartRespelled.name_mem :
    ∀ name x y, PartRespelled n name x y → name ∈ ["filter", "filterTo", "conditions"]
  | _, _, _, .bound respelled =>
    List.mem_append_left ["conditions"] (BoundRespelled.name_mem _ _ _ respelled)
  | _, _, _, .conditions named _ => by simp [named]

theorem PartRespelled.optional?_eq (fits : Fits64 n) : ∀ name x y, PartRespelled n name x y →
    optional? scalarText? (some x) = optional? scalarText? (some y)
  | _, _, _, .bound respelled => BoundRespelled.optional?_eq fits _ _ _ respelled
  | _, _, _, .conditions _ _ => rfl

theorem PartRespelled.conditions_eq (fits : Fits64 n) :
    ∀ name ∈ ["conditions"], ∀ x y, PartRespelled n name x y →
      defaulted? (list? ConditionModel.ofJson?) [] (some x) =
        defaulted? (list? ConditionModel.ofJson?) [] (some y)
  | _, named, _, _, .bound respelled => by
    cases List.mem_singleton.1 named
    exact absurd (BoundRespelled.name_mem _ _ _ respelled) (by decide)
  | _, _, _, _, .conditions _ each => by
    refine mapM_congr_forall₂ (each.imp fun item other alike => ?_)
    rcases alike with rfl | respelled
    · rfl
    · exact ConditionModel.ofJson?_respelled fits respelled

theorem ofFields?_exchanged (fits : Fits64 n) {values others : List (Option Json)}
    (fields : FieldsExchanged (PartRespelled n) fieldNames values others) :
    ofFields? values = ofFields? others := by
  obtain _ | ⟨kind, _ | ⟨combinator, _ | ⟨conditions, _ | ⟨operator, _ | ⟨filter,
    _ | ⟨filterTo, _ | ⟨dateFrom, _ | ⟨dateTo, _ | ⟨set, _ | _⟩⟩⟩⟩⟩⟩⟩⟩⟩ := fields
  obtain rfl := kind.same_of PartRespelled.name_mem (by decide)
  obtain rfl := combinator.same_of PartRespelled.name_mem (by decide)
  obtain rfl := operator.same_of PartRespelled.name_mem (by decide)
  obtain rfl := dateFrom.same_of PartRespelled.name_mem (by decide)
  obtain rfl := dateTo.same_of PartRespelled.name_mem (by decide)
  obtain rfl := set.same_of PartRespelled.name_mem (by decide)
  simp only [ofFields?, conditions.decode_eq (PartRespelled.conditions_eq fits),
    filter.decode_eq fun name _ => PartRespelled.optional?_eq fits name,
    filterTo.decode_eq fun name _ => PartRespelled.optional?_eq fits name]

theorem ofJson?_respelled (fits : Fits64 n) {json other : Json}
    (respelled : Respelled n json other) : ofJson? json = ofJson? other :=
  bind_eq_of_rel (fields?_exchanged respelled 9) fun _ _ fields => ofFields?_exchanged fits fields

/-- A record is not null. -/
theorem Respelled.optional?_eq (fits : Fits64 n) {json other : Json}
    (respelled : Respelled n json other) :
    optional? ofJson? (some json) = optional? ofJson? (some other) := by
  have same := congrArg (Option.map some) (ofJson?_respelled fits respelled)
  cases respelled with
  | object => exact same
  | array => exact same

end FilterModel

namespace FilterMap

/-- Two documents of a map that are the same but for bounds, which are the number in the first and
its text in the second. -/
inductive Respelled (n : Int) : Json → Json → Prop
  | mk {members others : List (String × Json)}
      (each : List.Forall₂ (MemberExchanged fun _ => FilterModel.Respelled n) members others) :
      Respelled n (ofMembers members) (ofMembers others)

theorem ofJson?_respelled (fits : Fits64 n) {json other : Json}
    (respelled : Respelled n json other) : ofJson? json = ofJson? other := by
  obtain ⟨each⟩ := respelled
  rw [ofJson?, ofJson?, members?_ofMembers, members?_ofMembers]
  simp only [Option.bind_eq_bind, Option.bind_some]
  congr 1
  refine mapM_congr_forall₂ (each.imp fun member other exchanged => ?_)
  obtain ⟨path, same | alike⟩ := exchanged
  · rw [path, same]
  · rw [path, alike.optional?_eq fits]

theorem Respelled.optional?_eq (fits : Fits64 n) {json other : Json}
    (respelled : Respelled n json other) :
    optional? ofJson? (some json) = optional? ofJson? (some other) := by
  have same := congrArg (Option.map some) (ofJson?_respelled fits respelled)
  obtain ⟨each⟩ := respelled
  exact same

end FilterMap

/-! ## Documents -/

variable {text other : String} {json json' : Json}

theorem readDocument_congr {α : Type} {kind : DocumentKind} {decode? : Json → Option α}
    (read : Json.read? text = some json) (read' : Json.read? other = some json')
    (same : decode? json = decode? json') :
    readDocument kind decode? text = readDocument kind decode? other := by
  rw [readDocument, readDocument, read, read', Option.bind_some, Option.bind_some, same]

theorem FilterModel.read_respelled (fits : Fits64 n) (read : Json.read? text = some json)
    (read' : Json.read? other = some json') (respelled : FilterModel.Respelled n json json') :
    FilterModel.read text = FilterModel.read other :=
  readDocument_congr read read' (ofJson?_respelled fits respelled)

theorem FilterMap.read_respelled (fits : Fits64 n) (read : Json.read? text = some json)
    (read' : Json.read? other = some json') (respelled : FilterMap.Respelled n json json') :
    FilterMap.read text = FilterMap.read other :=
  congrArg (Except.map _) (readDocument_congr read read' (respelled.optional?_eq fits))

/-- A bound may be written as a number or as a text. A numeral of 64 bits that stands for itself in
a document may be put between quotes: the document is read as before, with a text in place of the
number. If the number is a bound of a filter, or of one of its conditions, then both documents are
the same model, and become the same filter or the same error for every property; and likewise if
they are maps of filters. -/
theorem bounds_as_numbers_or_texts (fits : Fits64 n) {front back : String}
    (clear : Clear .outside front.toList) (ends : Ends back.toList)
    (bare : text = front ++ numeralText n ++ back)
    (quoted : other = front ++ "\"" ++ numeralText n ++ "\"" ++ back)
    (read : Json.read? text = some json) :
    ∃ json', Json.read? other = some json' ∧ Quoted n json json' ∧
      (FilterModel.Respelled n json json' → FilterModel.read text = FilterModel.read other ∧
        ∀ {c : Catalog} [DecidableEq c.Entity] (compiler : FilterCompiler c) (e : c.Entity)
          (path : String), (FilterModel.read text).bind (compiler.compileProperty e path) =
            (FilterModel.read other).bind (compiler.compileProperty e path)) ∧
      (FilterMap.Respelled n json json' → FilterMap.read text = FilterMap.read other ∧
        ∀ {c : Catalog} [DecidableEq c.Entity] (compiler : FilterCompiler c) (e : c.Entity),
          compiler.readFilter e text = compiler.readFilter e other) := by
  subst bare quoted
  obtain ⟨json', read', exchanged⟩ := read?_quoteNumeral clear ends read
  refine ⟨json', read', exchanged, fun respelled => ?_, fun respelled => ?_⟩
  · have same := FilterModel.read_respelled fits read read' respelled
    exact ⟨same, fun compiler e path => by rw [same]⟩
  · have same := FilterMap.read_respelled fits read read' respelled
    exact ⟨same, fun compiler e => by
      rw [FilterCompiler.readFilter, FilterCompiler.readFilter, same]⟩

/-! ## A condition with the greatest bound -/

/-- A composite filter of one condition. -/
def belowBound (bound : Json) : Json :=
  ofMembers [("operator", ofString "and"), ("conditions", .array [ofMembers
    [("type", ofString "lessThan"), ("filter", bound)]])]

/-- The document of the filter up to the bound, and behind it. -/
def belowFront : String :=
  "\x7b\"operator\":\"and\",\"conditions\":[\x7b\"type\":\"lessThan\",\"filter\":"

def belowBack : String := "\x7d]\x7d"

theorem read?_belowBound {bound : Json} (writable : Writable bound) {text : String}
    (written : text.toList = belowFront.toList ++ (bound.write ++ belowBack.toList)) :
    Json.read? text = some (belowBound bound) := by
  have whole : Writable (belowBound bound) :=
    .object (List.forall_mem_cons.2 ⟨.string _, List.forall_mem_singleton.2
      (.array (List.forall_mem_singleton.2 (.object (List.forall_mem_cons.2
        ⟨.string _, List.forall_mem_singleton.2 writable⟩))))⟩)
  have front : belowFront.toList = '{' :: (writeText "operator" ++ ':' :: writeText "and" ++
      ',' :: (writeText "conditions" ++ ':' :: '[' :: '{' :: (writeText "type" ++
        ':' :: writeText "lessThan" ++ ',' :: (writeText "filter" ++ [':'])))) := by decide
  have back : belowBack.toList = ['}', ']', '}'] := by decide
  have same : text.toList = (belowBound bound).write := by
    rw [written, front, back]
    simp [belowBound, ofMembers, ofString, write, writeMembers, writeItems]
  rw [Json.read?, same]
  exact readChars?_write whole

theorem belowBound_respelled (n : Int) : FilterModel.Respelled n (belowBound (.ofInt n))
    (belowBound (.ofString (numeralText n))) := by
  have condition : ConditionModel.Respelled n
      (ofMembers [("type", ofString "lessThan"), ("filter", .ofInt n)])
      (ofMembers [("type", ofString "lessThan"), ("filter", .ofString (numeralText n))]) :=
    .object (.cons ⟨rfl, .inl rfl⟩ (.cons ⟨rfl, .inr (.mk List.mem_cons_self)⟩ .nil))
  exact .object (.cons ⟨rfl, .inl rfl⟩
    (.cons ⟨rfl, .inr (.conditions rfl (.cons (.inr condition) .nil))⟩ .nil))

/-- The greatest integer of 64 bits as a bound, which no floating number is. -/
theorem belowBound_same :
    FilterModel.read (belowFront ++ "18446744073709551615" ++ belowBack) =
      FilterModel.read (belowFront ++ "\"" ++ "18446744073709551615" ++ "\"" ++ belowBack) ∧
    FilterModel.read (belowFront ++ "18446744073709551615" ++ belowBack) = .ok
      { combinator := some "and", conditions := [
        { operator := some "lessThan", filter := some "18446744073709551615" }] } := by
  obtain ⟨n, fits, numeral⟩ : ∃ n, Fits64 n ∧ numeralText n = "18446744073709551615" :=
    ⟨twoPow 64 - 1, ⟨by decide, by decide⟩, by decide +kernel⟩
  rw [← numeral]
  have quote : "\"".toList = ['"'] := by decide
  have back : belowBack.toList = ['}', ']', '}'] := by decide
  have bare : Json.read? (belowFront ++ numeralText n ++ belowBack) =
      some (belowBound (.ofInt n)) := by
    refine read?_belowBound (.number (Numeral.canonical_ofInt n)) ?_
    simp [write, Numeral.write_ofInt, numeralText]
  have quoted : Json.read? (belowFront ++ "\"" ++ numeralText n ++ "\"" ++ belowBack) =
      some (belowBound (.ofString (numeralText n))) := by
    refine read?_belowBound (.string _) ?_
    simp [ofString, write, writeText, numeralText, flatMap_escape_signedNumeral, quote]
  have clear : Clear .outside belowFront.toList := by
    refine ⟨by decide +kernel, fun c last => ?_⟩
    have colon : belowFront.toList.getLast? = some ':' := by decide +kernel
    rw [colon] at last
    cases last
    rfl
  obtain ⟨json', read', -, same, -⟩ := bounds_as_numbers_or_texts fits clear
    (back ▸ ends_brace _) rfl rfl bare
  cases quoted.symm.trans read'
  have models := (same (belowBound_respelled n)).1
  refine ⟨models, models.trans ?_⟩
  rw [FilterModel.read, readDocument, quoted]
  rfl

end RowQuery
