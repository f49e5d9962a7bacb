import Mathlib.Data.List.Basic
import RowQuery.Json.Documents
import RowQuery.Proofs.Json.Written

/-!
# Written documents read back

Filters, conditions, sorts, maps of filters and whole requests come back from the documents they are
written to, whatever texts they hold. What is absent, null or empty is told apart field by field:
absent fields of a filter are left out and so is an empty list of conditions, an absent filter of a
property is null, and the null entry of a set is null within the list.

A field finds its own value because no two fields of a record have a name in common.
-/
namespace RowQuery.Json
open Text

/-! ## Forms -/

/-- Data are written as values that have a text, and decoding such a value gives the data back. -/
structure Form {α : Type} (decode? : Json → Option α) (encode : α → Json) : Prop where
  writable : ∀ x, Writable (encode x)
  back : ∀ x, decode? (encode x) = some x

/-- What is written is read back, as a value and as the text of a document. -/
def ReadsBack {α : Type} (decode? : Json → Option α) (encode : α → Json) : Prop :=
  ∀ x, decode? (encode x) = some x ∧ ∀ kind, readDocument kind decode? (encode x).render = .ok x

theorem mapM_of_map {α β : Type} {f : α → Option β} {xs : List α} {ys : List β}
    (each : xs.map f = ys.map some) : xs.mapM f = some ys := by
  induction xs generalizing ys with
  | nil =>
    cases List.map_eq_nil_iff.1 each.symm
    rfl
  | cons x xs ih =>
    obtain ⟨y, ys, rfl, first, rest⟩ := List.map_eq_cons_iff.1 each.symm
    rw [List.mapM_cons, ← first, ih rest.symm]
    rfl

section
variable {α : Type} {decode? : Json → Option α} {encode : α → Json}

theorem Form.read?_render (form : Form decode? encode) (x : α) :
    read? (encode x).render = some (encode x) := by
  rw [read?, render, String.toList_ofList]
  exact readChars?_write (form.writable x)

theorem Form.readsBack (form : Form decode? encode) : ReadsBack decode? encode := by
  intro x
  refine ⟨form.back x, fun kind => ?_⟩
  rw [readDocument, form.read?_render, Option.bind_some, form.back x]

theorem Form.list (form : Form decode? encode) :
    Form (list? decode?) fun xs => .array (xs.map encode) where
  writable xs := by
    refine Writable.array fun json member => ?_
    obtain ⟨x, -, rfl⟩ := List.mem_map.1 member
    exact form.writable x
  back xs := by
    refine mapM_of_map ?_
    rw [List.map_map]
    exact List.map_congr_left fun x _ => form.back x

theorem optional?_of_ne_null {json : Json} (present : json ≠ .null) :
    optional? decode? (some json) = (decode? json).map some := by
  rw [optional?]
  exact fun null => present null

/-- A field that is left out if it is absent. -/
theorem Form.optional?_map (form : Form decode? encode) (present : ∀ x, encode x ≠ .null)
    (x : Option α) : optional? decode? (x.map encode) = some x := by
  cases x with
  | none => rfl
  | some x => rw [Option.map_some, optional?_of_ne_null (present x), form.back, Option.map_some]

/-- A datum that is null if it is absent. -/
theorem Form.nullable (form : Form decode? encode) (present : ∀ x, encode x ≠ .null) :
    Form (fun json => optional? decode? (some json)) fun x => (x.map encode).getD .null where
  writable x := by
    cases x with
    | none => exact Writable.null
    | some x => exact form.writable x
  back x := by
    cases x with
    | none => rfl
    | some x => exact form.optional?_map present (some x)

theorem Form.writable_map (form : Form decode? encode) (x : Option α) :
    ∀ json ∈ x.map encode, Writable json := by
  intro json member
  obtain ⟨x, -, rfl⟩ := Option.map_eq_some_iff.1 member
  exact form.writable x

end

theorem form_text : Form text? ofString := ⟨Writable.string, fun _ => rfl⟩

theorem form_scalar : Form scalarText? ofString := ⟨Writable.string, fun _ => rfl⟩

theorem ofString_ne_null (s : String) : ofString s ≠ .null := fun null => by cases null

theorem form_set : Form (list? nullableText?) setToJson :=
  (form_text.nullable ofString_ne_null).list

theorem setToJson_ne_null (values : List (Option String)) : setToJson values ≠ .null :=
  fun null => by cases null

theorem form_nat64 : Form nat64? fun n : UInt64 => ofNat n.toNat where
  writable _ := Writable.number (Numeral.canonical_ofInt _)
  back n := by
    have small : n.toNat < natLimit := n.toNat_lt
    have whole : ofDigits (digits n.toNat) = n.toNat := ofDigits_digits _
    have number : (Numeral.ofInt n.toNat).number? = some (.nat n.toNat) := by
      simp [Numeral.number?, Numeral.ofInt, Numeral.isInteger, whole, small]
    rw [ofNat, nat64?, number]
    exact congrArg some UInt64.ofNat_toNat

/-! ## Records -/

variable {names : List String} {name : String} {json : Json} {members : List (String × Json)}

theorem field?_absent (other : ∀ entry ∈ members, entry.1 ∉ names) :
    field? names members = some none := by
  have nothing : members.filter (fun entry => names.contains entry.1) = [] :=
    List.filter_eq_nil_iff.2 fun entry member => by simpa using other entry member
  rw [field?, nothing]

theorem field?_own (own : name ∈ names) (other : ∀ entry ∈ members, entry.1 ∉ names) :
    field? names ((name, json) :: members) = some (some json) := by
  have nothing : members.filter (fun entry => names.contains entry.1) = [] :=
    List.filter_eq_nil_iff.2 fun entry member => by simpa using other entry member
  rw [field?, List.filter_cons_of_pos (by simpa using own), nothing]

theorem field?_other (other : name ∉ names) :
    field? names ((name, json) :: members) = field? names members := by
  rw [field?, field?, List.filter_cons_of_neg (by simpa using other)]

/-- The members of the fields that are present. -/
def present (fields : List (String × Option Json)) : List (String × Json) :=
  fields.filterMap fun (name, value) => value.map (name, ·)

theorem mem_of_mem_present {names : List String} {values : List (Option Json)}
    {entry : String × Json} (member : entry ∈ present (names.zip values)) : entry.1 ∈ names := by
  obtain ⟨⟨name, value⟩, found, same⟩ := List.mem_filterMap.1 member
  obtain ⟨json, -, rfl⟩ := Option.map_eq_some_iff.1 same
  exact (List.of_mem_zip found).1

/-- Fields, each with the names it is known under and the name it is written with: the latter is
among the former, and among those of no other field. -/
def Apart (fields : List (List String × String)) : Prop :=
  (∀ field ∈ fields, field.2 ∈ field.1) ∧
    fields.Pairwise fun field other => field.2 ∉ other.1 ∧ other.2 ∉ field.1

instance (fields : List (List String × String)) : Decidable (Apart fields) :=
  inferInstanceAs (Decidable (_ ∧ _))

theorem map_field?_present {fields : List (List String × String)} (apart : Apart fields)
    {values : List (Option Json)} (same : values.length = fields.length) :
    fields.map (fun field => field? field.1 (present ((fields.map Prod.snd).zip values))) =
      values.map some := by
  induction fields generalizing values with
  | nil =>
    rw [List.length_eq_zero_iff.1 same]
    rfl
  | cons field fields ih =>
    obtain ⟨names, name⟩ := field
    obtain ⟨own, pairs⟩ := apart
    obtain ⟨others, pairs⟩ := List.pairwise_cons.1 pairs
    obtain ⟨value, values, rfl⟩ := List.exists_cons_of_length_eq_add_one same
    have absent : ∀ entry ∈ present ((fields.map Prod.snd).zip values), entry.1 ∉ names := by
      intro entry member
      obtain ⟨field, found, written⟩ := List.mem_map.1 (mem_of_mem_present member)
      exact written ▸ (others field found).2
    rw [List.map_cons, List.map_cons, List.map_cons, List.zip_cons_cons,
      ← ih ⟨fun field member => own field (List.mem_cons_of_mem _ member), pairs⟩
        (Nat.succ.inj same)]
    refine congrArg₂ _ ?_ (List.map_congr_left fun field member => ?_)
    · cases value with
      | none => exact field?_absent absent
      | some json => exact field?_own (own _ List.mem_cons_self) absent
    · cases value with
      | none => rfl
      | some json => exact field?_other (others field member).1

theorem members?_ofMembers (members : List (String × Json)) :
    (ofMembers members).members? = some members := by
  refine mapM_of_map ?_
  rw [List.map_map]
  rfl

theorem fields?_ofMembers (least : Nat) (fieldNames : List (List String)) :
    fields? least fieldNames (ofMembers members) =
      fieldNames.mapM fun names => field? names members := by
  change (ofMembers members).members?.bind _ = _
  rw [members?_ofMembers, Option.bind_some]

/-- Each field of a written record is found. -/
theorem fields?_presentMembers {fields : List (List String × String)} (apart : Apart fields)
    (least : Nat) (values : List (Option Json)) (same : values.length = fields.length) :
    fields? least (fields.map Prod.fst) (presentMembers ((fields.map Prod.snd).zip values)) =
      some values := by
  refine (fields?_ofMembers least _).trans (mapM_of_map ?_)
  rw [List.map_map]
  exact map_field?_present apart same

theorem writable_presentMembers {fields : List (String × Option Json)}
    (each : fields.Forall fun field => ∀ json ∈ field.2, Writable json) :
    Writable (presentMembers fields) := by
  refine Writable.object fun member found => ?_
  obtain ⟨⟨name, value⟩, field, same⟩ := List.mem_filterMap.1 found
  obtain ⟨json, value, rfl⟩ := Option.map_eq_some_iff.1 same
  exact List.forall_iff_forall_mem.1 each _ field json value

end RowQuery.Json

namespace RowQuery
open Json

/-! ## Conditions and filters -/

theorem ConditionModel.form : Form ConditionModel.ofJson? ConditionModel.toJson where
  writable m := writable_presentMembers
    ⟨form_text.writable_map _, form_text.writable_map _, form_scalar.writable_map _,
      form_scalar.writable_map _, form_text.writable_map _, form_text.writable_map _,
      form_set.writable_map _⟩
  back m := by
    have found : fields? 7 fieldNames m.toJson =
        some [m.filterType.map ofString, m.operator.map ofString, m.filter.map ofString,
          m.filterTo.map ofString, m.dateFrom.map ofString, m.dateTo.map ofString,
          m.values.map setToJson] :=
      have apart : Apart (fieldNames.zip
          ["filterType", "type", "filter", "filterTo", "dateFrom", "dateTo", "values"]) := by
        decide
      fields?_presentMembers apart 7 [_, _, _, _, _, _, _] rfl
    rw [ofJson?, found, Option.bind_some]
    simp only [ofFields?, form_text.optional?_map ofString_ne_null,
      form_scalar.optional?_map ofString_ne_null, form_set.optional?_map setToJson_ne_null,
      Option.bind_eq_bind, Option.bind_some, Option.pure_def]

/-- The list of conditions as a field: left out if there are none. -/
def conditionsField (conditions : List ConditionModel) : Option Json :=
  if conditions.isEmpty then none else some (.array (conditions.map (·.toJson)))

theorem defaulted?_conditionsField (conditions : List ConditionModel) :
    defaulted? (list? ConditionModel.ofJson?) [] (conditionsField conditions) =
      some conditions := by
  cases conditions with
  | nil => rfl
  | cons condition conditions => exact ConditionModel.form.list.back _

theorem writable_conditionsField (conditions : List ConditionModel) :
    ∀ json ∈ conditionsField conditions, Writable json := by
  intro json member
  cases conditions with
  | nil => cases member
  | cons condition conditions =>
    cases member
    exact ConditionModel.form.list.writable _

theorem FilterModel.form : Form FilterModel.ofJson? FilterModel.toJson where
  writable m := writable_presentMembers
    ⟨form_text.writable_map _, form_text.writable_map _, writable_conditionsField m.conditions,
      form_text.writable_map _, form_scalar.writable_map _, form_scalar.writable_map _,
      form_text.writable_map _, form_text.writable_map _, form_set.writable_map _⟩
  back m := by
    have found : fields? 9 fieldNames m.toJson =
        some [m.filterType.map ofString, m.combinator.map ofString, conditionsField m.conditions,
          m.operator.map ofString, m.filter.map ofString, m.filterTo.map ofString,
          m.dateFrom.map ofString, m.dateTo.map ofString, m.values.map setToJson] :=
      have apart : Apart (fieldNames.zip
          ["filterType", "operator", "conditions", "type", "filter", "filterTo", "dateFrom",
            "dateTo", "values"]) := by
        decide
      fields?_presentMembers apart 9 [_, _, _, _, _, _, _, _, _] rfl
    rw [ofJson?, found, Option.bind_some]
    simp only [ofFields?, form_text.optional?_map ofString_ne_null, defaulted?_conditionsField,
      form_scalar.optional?_map ofString_ne_null, form_set.optional?_map setToJson_ne_null,
      Option.bind_eq_bind, Option.bind_some, Option.pure_def]

theorem FilterModel.toJson_ne_null (m : FilterModel) : m.toJson ≠ .null := fun null => by cases null

/-! ## Maps of filters -/

theorem FilterMap.eq_of_entries {m n : FilterMap} (same : m.entries = n.entries) : m = n := by
  cases m
  cases n
  cases same
  rfl

/-- Entries with new paths are put behind the older ones in their order. -/
theorem FilterMap.entries_foldl_insert (entries : List (String × Option FilterModel))
    (m : FilterMap) (nodup : ((m.entries ++ entries).map Prod.fst).Nodup) :
    (entries.foldl (fun m (path, model) => m.insert path model) m).entries =
      m.entries ++ entries := by
  induction entries generalizing m with
  | nil => exact (List.append_nil _).symm
  | cons entry entries ih =>
    obtain ⟨path, model⟩ := entry
    have fresh : ∀ older ∈ m.entries, older.1 ≠ path := by
      intro older member same
      rw [List.map_append, List.map_cons] at nodup
      exact (List.nodup_append.1 nodup).2.2 _ (List.mem_map_of_mem member) _ List.mem_cons_self same
    have inserted : (m.insert path model).entries = m.entries ++ [(path, model)] := by
      have kept : m.entries.filter (fun entry => entry.1 != path) = m.entries :=
        List.filter_eq_self.2 fun older member => by simpa using fresh older member
      exact congrArg (· ++ [(path, model)]) kept
    rw [List.foldl_cons, ih, inserted, List.append_assoc, List.singleton_append]
    rwa [inserted, List.append_assoc, List.singleton_append]

theorem FilterMap.form : Form FilterMap.ofJson? FilterMap.toJson where
  writable m := by
    refine Writable.object fun member found => ?_
    obtain ⟨⟨path, model⟩, -, rfl⟩ := List.mem_map.1 found
    exact (FilterModel.form.nullable FilterModel.toJson_ne_null).writable model
  back m := by
    have members : m.toJson.members? = some _ := members?_ofMembers _
    have entries : (m.entries.map fun (path, model) =>
        (path, (model.map (·.toJson)).getD .null)).mapM (fun (path, value) =>
          (optional? FilterModel.ofJson? (some value)).map (path, ·)) = some m.entries := by
      refine mapM_of_map ?_
      rw [List.map_map]
      refine List.map_congr_left fun entry _ => ?_
      have model := (FilterModel.form.nullable FilterModel.toJson_ne_null).back entry.2
      exact congrArg (Option.map (entry.1, ·)) model
    have folded := entries_foldl_insert m.entries empty m.nodup
    rw [ofJson?, members, Option.bind_eq_bind, Option.bind_some, entries, Option.bind_eq_bind,
      Option.bind_some, Option.pure_def]
    exact congrArg some (eq_of_entries folded)

theorem FilterMap.toJson_ne_null (m : FilterMap) : m.toJson ≠ .null := fun null => by cases null

/-! ## Sorts, pages and requests -/

theorem SortOrder.form : Form SortOrder.ofJson? fun order => ofString order.name where
  writable _ := Writable.string _
  back order := by cases order <;> decide

theorem SortModel.form : Form SortModel.ofJson? SortModel.toJson where
  writable m := by
    have members : m.toJson = presentMembers
        [("property", some (ofString m.property)), ("order", some (ofString m.order.name))] := rfl
    rw [members]
    exact writable_presentMembers
      ⟨form_text.writable_map (some _), SortOrder.form.writable_map (some _)⟩
  back m := by
    have found : fields? 1 fieldNames m.toJson =
        some [some (ofString m.property), some (ofString m.order.name)] :=
      have apart : Apart (fieldNames.zip ["property", "order"]) := by decide
      fields?_presentMembers apart 1 [some _, some _] rfl
    have order : defaulted? SortOrder.ofJson? .asc (some (ofString m.order.name)) = some m.order :=
      SortOrder.form.back m.order
    rw [ofJson?, found, Option.bind_some, ofFields?, order]
    rfl

theorem form_sorts : Form sortsOfJson? sortsToJson := SortModel.form.list

theorem Pagination.form : Form Pagination.ofJson? Pagination.toJson where
  writable p := by
    have members : p.toJson = presentMembers
        [("startRow", some (.ofNat p.startRow.toNat)), ("endRow", some (.ofNat p.endRow.toNat))] :=
      rfl
    rw [members]
    exact writable_presentMembers
      ⟨form_nat64.writable_map (some _), form_nat64.writable_map (some _)⟩
  back p := by
    have found : fields? 2 fieldNames p.toJson =
        some [some (.ofNat p.startRow.toNat), some (.ofNat p.endRow.toNat)] :=
      have apart : Apart (fieldNames.zip ["startRow", "endRow"]) := by decide
      fields?_presentMembers apart 2 [some _, some _] rfl
    rw [ofJson?, found, Option.bind_some, ofFields?]
    simp only [Option.bind_some, Option.bind_eq_bind, form_nat64.back, Option.pure_def]

theorem Pagination.toJson_ne_null (p : Pagination) : p.toJson ≠ .null := fun null => by cases null

theorem GridRequest.form : Form GridRequest.ofJson? GridRequest.toJson where
  writable r := by
    have members : r.toJson = presentMembers
        [("filter", some ((r.filter.map (·.toJson)).getD .null)),
         ("sort", some (sortsToJson r.sort)),
         ("pagination", some ((r.pagination.map (·.toJson)).getD .null))] := rfl
    rw [members]
    exact writable_presentMembers
      ⟨(FilterMap.form.nullable FilterMap.toJson_ne_null).writable_map (some _),
        form_sorts.writable_map (some _),
        (Pagination.form.nullable Pagination.toJson_ne_null).writable_map (some _)⟩
  back r := by
    have found : fields? 0 fieldNames r.toJson =
        some [some ((r.filter.map (·.toJson)).getD .null), some (sortsToJson r.sort),
          some ((r.pagination.map (·.toJson)).getD .null)] :=
      have apart : Apart (fieldNames.zip ["filter", "sort", "pagination"]) := by decide
      fields?_presentMembers apart 0 [some _, some _, some _] rfl
    have filter := (FilterMap.form.nullable FilterMap.toJson_ne_null).back r.filter
    have sorts : defaulted? sortsOfJson? [] (some (sortsToJson r.sort)) = some r.sort :=
      form_sorts.back r.sort
    have page := (Pagination.form.nullable Pagination.toJson_ne_null).back r.pagination
    rw [ofJson?, found, Option.bind_some, ofFields?, filter, sorts, page]
    rfl

/-! ## Documents -/

/-- Every filter, condition, list of sorts, map of filters and request is read back from what it is
written to. A map comes back with its entries in the order in which they were written. -/
theorem documents_read_back :
    ReadsBack FilterModel.ofJson? FilterModel.toJson ∧
      ReadsBack ConditionModel.ofJson? ConditionModel.toJson ∧
      ReadsBack sortsOfJson? sortsToJson ∧
      ReadsBack FilterMap.ofJson? FilterMap.toJson ∧
      ReadsBack GridRequest.ofJson? GridRequest.toJson :=
  ⟨FilterModel.form.readsBack, ConditionModel.form.readsBack, form_sorts.readsBack,
    FilterMap.form.readsBack, GridRequest.form.readsBack⟩

/-! ## Documents that may be null -/

theorem FilterMap.read_toJson (m : FilterMap) : FilterMap.read m.toJson.render = .ok m := by
  have form := FilterMap.form.nullable FilterMap.toJson_ne_null
  exact congrArg (Except.map (·.getD empty)) ((form.readsBack (some m)).2 .filter)

theorem readSorts_sortsToJson (sorts : List SortModel) :
    readSorts (sortsToJson sorts).render = .ok sorts := by
  have form := form_sorts.nullable fun sorts null => by cases null
  exact congrArg (Except.map (·.getD [])) ((form.readsBack (some sorts)).2 .sort)

theorem Pagination.read_toJson (p : Pagination) : readPagination p.toJson.render = .ok (some p) :=
  ((Pagination.form.nullable Pagination.toJson_ne_null).readsBack (some p)).2 .pagination

end RowQuery
