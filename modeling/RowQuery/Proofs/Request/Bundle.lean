import RowQuery.Session
import RowQuery.Proofs.Filter.Conjunction
import RowQuery.Proofs.Json.Documents
import RowQuery.Proofs.Request.Agreement

/-!
# Requests put together from parts

A filter, a sort and a page may arrive as documents of their own or as the members of one request.
The request takes the same filters and pages, null among them, and yields the rows of the three
stages run one after another. Of sorts it takes the same lists, but not null, which on its own
stands for no sort.
-/
namespace RowQuery
open Outcome Json

/-! ## Documents -/

/-- Of the members of an object, one and no other has the given name, and it holds what a text
holds. -/
def Carries (members : List (String × Json)) (name text : String) : Prop :=
  ∃ json, Json.read? text = some json ∧
    members.filter (fun member => member.1 == name) = [(name, json)]

/-- A document is an object with the given texts as its filter, its sort and its page, in any order
and among any other members. -/
def Bundles (document filter sort page : String) : Prop :=
  ∃ members, Json.read? document = some (ofMembers members) ∧ Carries members "filter" filter ∧
    Carries members "sort" sort ∧ Carries members "pagination" page

/-- The plainest such document. -/
def bundle (filter sort page : String) : String :=
  "\x7b\"filter\":" ++ filter ++ ",\"sort\":" ++ sort ++ ",\"pagination\":" ++ page ++ "\x7d"

theorem toList_bundle (filter sort page : String) : (bundle filter sort page).toList =
    '{' :: commas [memberText "filter" filter.toList, memberText "sort" sort.toList,
      memberText "pagination" page.toList] ++ ['}'] := by
  -- With the fixed texts as variables, rewriting does not try to match them with each other.
  have spelled : ∀ opening second third closing : String,
      opening.toList = '{' :: (writeText "filter" ++ [':']) →
      second.toList = ',' :: (writeText "sort" ++ [':']) →
      third.toList = ',' :: (writeText "pagination" ++ [':']) → closing.toList = ['}'] →
      (opening ++ filter ++ second ++ sort ++ third ++ page ++ closing).toList =
        '{' :: commas [memberText "filter" filter.toList, memberText "sort" sort.toList,
          memberText "pagination" page.toList] ++ ['}'] := by
    intro opening second third closing first next last close
    rw [commas_cons _ _ (List.cons_ne_nil _ _), commas_cons _ _ (List.cons_ne_nil _ _), commas,
      List.intercalate_singleton]
    simp only [String.toList_append, first, next, last, close, memberText, List.append_assoc,
      List.cons_append, List.nil_append]
  exact spelled _ _ _ _ (by decide) (by decide) (by decide) (by decide)

theorem bundles_bundle {filter sort page : String} {f s p : Json}
    (filtered : Json.read? filter = some f) (sorted : Json.read? sort = some s)
    (paged : Json.read? page = some p) : Bundles (bundle filter sort page) filter sort page := by
  have each : ∀ part ∈ [("filter", filter, f), ("sort", sort, s), ("pagination", page, p)],
      readChars? part.2.1.toList = some part.2.2 :=
    List.forall_mem_cons.2 ⟨filtered, List.forall_mem_cons.2 ⟨sorted,
      List.forall_mem_singleton.2 paged⟩⟩
  have texts : [memberText "filter" filter.toList, memberText "sort" sort.toList,
        memberText "pagination" page.toList] =
      memberTexts (fun part => part.1) (fun part => part.2.1.toList)
        [("filter", filter, f), ("sort", sort, s), ("pagination", page, p)] := rfl
  have whole := readChars?_object (fun part => part.1) each
  rw [← texts, ← toList_bundle] at whole
  exact ⟨[("filter", f), ("sort", s), ("pagination", p)], whole, ⟨f, filtered, rfl⟩,
    ⟨s, sorted, rfl⟩, ⟨p, paged, rfl⟩⟩

theorem Carries.field? {members : List (String × Json)} {name text : String}
    (carries : Carries members name text) :
    ∃ json, Json.read? text = some json ∧ Json.field? [name] members = some (some json) := by
  obtain ⟨json, read, only⟩ := carries
  have named : (fun member : String × Json => [name].contains member.1) =
      fun member => member.1 == name := by
    funext member
    simp only [List.contains_cons, List.contains_nil, Bool.or_false]
  refine ⟨json, read, ?_⟩
  rw [Json.field?, named, only]

theorem readDocument_success {α : Type} {kind : DocumentKind} {decode? : Json → Option α}
    {text : String} {x : α} : readDocument kind decode? text = .ok x ↔
      ∃ json, Json.read? text = some json ∧ decode? json = some x := by
  rw [readDocument, ← Option.bind_eq_some_iff]
  cases (Json.read? text).bind decode? <;> simp

theorem readDocument_failure {α : Type} {kind : DocumentKind} {decode? : Json → Option α}
    {text : String} {json : Json} (read : Json.read? text = some json)
    (refused : decode? json = none) :
    readDocument kind decode? text = .error (.invalidJson kind) := by
  rw [readDocument, read, Option.bind_some, refused]

/-! ## Stages -/

/-- The rows of a filter, a sorter and a page run one after another. -/
def staged {R Item : Type} (filter : CompiledFilter R) (sorter : Sorter R)
    (page : Option Pagination) (view : Item → R) (items : List Item) : List Item :=
  let sorted := sorter.sort view (filter.select view items)
  match page with
  | some page => page.window sorted
  | none => sorted

variable {c : Catalog} [DecidableEq c.Entity] {e : c.Entity} {compiler : FilterCompiler c}
  {filter : CompiledFilter (c.Row e)}

theorem FilterCompiler.compile_empty : compiler.compile e .empty = .ok .always := by
  refine (compiler.compile_success e).2 ⟨[], ?_, rfl⟩
  rw [sortedEntries, FilterMap.empty, List.filterMap_nil, List.mergeSort_nil]
  rfl

/-- An absent filter counts as the empty one. -/
theorem GridRequest.apply_of_compiled_getD {request : GridRequest}
    (compiled : compiler.compile e (request.filter.getD .empty) = .ok filter) {Item : Type}
    (view : Item → c.Row e) (items : List Item) :
    request.apply compiler e view items =
      .ok (staged filter (.compile c e request.sort) request.pagination view items) := by
  have filtered : request.compileFilter compiler e = .ok filter := by
    rw [compileFilter]
    cases asked : request.filter with
    | some filters => rwa [asked] at compiled
    | none =>
      rw [asked] at compiled
      exact FilterCompiler.compile_empty.symm.trans compiled
  rw [apply, filtered]
  rfl

/-! ## Requests -/

theorem Bundles.ofJson? {document filter sort page : String}
    (bundles : Bundles document filter sort page) : ∃ json f s p,
      Json.read? document = some json ∧ Json.read? filter = some f ∧ Json.read? sort = some s ∧
        Json.read? page = some p ∧
        GridRequest.ofJson? json = GridRequest.ofFields? [some f, some s, some p] := by
  obtain ⟨members, read, filterCarried, sortCarried, pageCarried⟩ := bundles
  obtain ⟨f, filterRead, filterField⟩ := filterCarried.field?
  obtain ⟨s, sortRead, sortField⟩ := sortCarried.field?
  obtain ⟨p, pageRead, pageField⟩ := pageCarried.field?
  refine ⟨_, f, s, p, read, filterRead, sortRead, pageRead, ?_⟩
  have found : fields? 0 GridRequest.fieldNames (ofMembers members) =
      some [some f, some s, some p] := by
    rw [fields?_ofMembers, GridRequest.fieldNames]
    simp only [List.mapM_cons, List.mapM_nil, filterField, sortField, pageField]
    rfl
  rw [GridRequest.ofJson?, found, Option.bind_some]

/-- Within a request a sort may be absent, but not null. -/
theorem GridRequest.read_of_null_sort {document filter sort page : String}
    (bundles : Bundles document filter sort page) (null : Json.read? sort = some .null) :
    GridRequest.read document = .error (.invalidJson .request) := by
  obtain ⟨json, f, s, p, read, -, sortRead, -, fields⟩ := bundles.ofJson?
  cases sortRead.symm.trans null
  refine readDocument_failure read ?_
  rw [fields, GridRequest.ofFields?]
  cases optional? FilterMap.ofJson? (some f) <;> rfl

/-- A request accepts what its parts accept, save a sort that is null. Where a filter, a sort and a
page are accepted each by itself, an object of the three is refused if the sort is null; otherwise
it is read as a request, which yields the rows of the three stages for every list of rows. -/
theorem Session.bundle_of_parts (s : Session c e) {f t p : String} {sorts : List SortModel}
    {page : Option Pagination} (filtered : s.newCompiler.readFilter e f = .ok filter)
    (sorted : readSorts t = .ok sorts) (paged : readPagination p = .ok page) :
    Bundles (bundle f t p) f t p ∧
      ∀ document, Bundles document f t p →
        (Json.read? t = some .null → GridRequest.read document = .error (.invalidJson .request)) ∧
        (Json.read? t ≠ some .null → ∃ request, GridRequest.read document = .ok request ∧
          ∀ (Item : Type) (view : Item → c.Row e) (items : List Item),
            request.apply s.newCompiler e view items =
              .ok (staged filter (.compile c e sorts) page view items)) := by
  obtain ⟨filters, filtersRead, compiled⟩ := bind_success.1 filtered
  obtain ⟨maybeFilters, filtersFound, rfl⟩ := map_success.1 filtersRead
  obtain ⟨maybeSorts, sortsFound, rfl⟩ := map_success.1 sorted
  obtain ⟨fj, fRead, fDecoded⟩ := readDocument_success.1 filtersFound
  obtain ⟨tj, tRead, tDecoded⟩ := readDocument_success.1 sortsFound
  obtain ⟨pj, pRead, pDecoded⟩ := readDocument_success.1 paged
  refine ⟨bundles_bundle fRead tRead pRead, fun document bundles =>
    ⟨GridRequest.read_of_null_sort bundles, fun listed => ?_⟩⟩
  have list : tj ≠ .null := fun null => listed (null ▸ tRead)
  rw [optional?_of_ne_null list, Option.map_eq_some_iff] at tDecoded
  obtain ⟨sorts, tDecoded, rfl⟩ := tDecoded
  obtain ⟨json, _, _, _, read, filterRead, sortRead, pageRead, fields⟩ := bundles.ofJson?
  cases fRead.symm.trans filterRead
  cases tRead.symm.trans sortRead
  cases pRead.symm.trans pageRead
  have decoded : GridRequest.ofJson? json = some ⟨maybeFilters, sorts, page⟩ := by
    have defaulted : defaulted? sortsOfJson? [] (some tj) = some sorts := tDecoded
    rw [fields, GridRequest.ofFields?, fDecoded, defaulted, pDecoded]
    rfl
  exact ⟨_, readDocument_success.2 ⟨json, read, decoded⟩,
    fun _ view items => GridRequest.apply_of_compiled_getD compiled view items⟩

/-! ## Parts of a request for employees -/

/-- The parts of a request for one employee, each written as a document of its own. -/
theorem firstPlainEmployee_bundled :
    ∃ filter request,
      GridRequest.read (bundle (firstPlainEmployee.filter.getD .empty).toJson.render
        (sortsToJson firstPlainEmployee.sort).render (Pagination.toJson ⟨1, 2⟩).render) =
          .ok request ∧
      request.apply staffCompiler () id [bob, alice] =
        .ok (staged filter (.compile staff () firstPlainEmployee.sort) (some ⟨1, 2⟩) id
          [bob, alice]) := by
  obtain ⟨filter, compiled⟩ := firstPlainEmployee_compiles
  have filtered : ({} : Session staff ()).newCompiler.readFilter ()
      (firstPlainEmployee.filter.getD .empty).toJson.render = .ok filter :=
    bind_success.2 ⟨_, FilterMap.read_toJson _, compiled⟩
  obtain ⟨bundles, accepts⟩ := Session.bundle_of_parts {} filtered
    (readSorts_sortsToJson firstPlainEmployee.sort) (Pagination.read_toJson ⟨1, 2⟩)
  have listed : Json.read? (sortsToJson firstPlainEmployee.sort).render ≠ some .null := by
    rw [form_sorts.read?_render]
    intro null
    cases null
  obtain ⟨request, read, applied⟩ := (accepts _ bundles).2 listed
  exact ⟨filter, request, read, applied _ id [bob, alice]⟩

theorem read?_null : Json.read? "null" = some .null := by
  have letters : "null".toList = ['n', 'u', 'l', 'l'] := by decide
  rw [Json.read?, letters]
  exact readChars?_write .null

/-- The empty filter, no sort and no page, each of them null. -/
theorem staff_reads_null : (({} : Session staff ()).newCompiler.readFilter () "null" =
      .ok .always) ∧ readSorts "null" = .ok [] ∧ readPagination "null" = .ok none :=
  ⟨bind_success.2 ⟨.empty, map_success.2 ⟨none, readDocument_success.2 ⟨_, read?_null, rfl⟩, rfl⟩,
      FilterCompiler.compile_empty⟩,
    map_success.2 ⟨none, readDocument_success.2 ⟨_, read?_null, rfl⟩, rfl⟩,
    readDocument_success.2 ⟨_, read?_null, rfl⟩⟩

/-- Three parts that are accepted each by itself, and the object of the three, which is not. -/
theorem staff_refuses_null_sort :
    (∃ filter, ({} : Session staff ()).newCompiler.readFilter () "null" = .ok filter) ∧
      readSorts "null" = .ok [] ∧ readPagination "null" = .ok none ∧
      ¬ ∃ request, GridRequest.read (bundle "null" "null" "null") = .ok request := by
  obtain ⟨filtered, sorted, paged⟩ := staff_reads_null
  refine ⟨⟨_, filtered⟩, sorted, paged, ?_⟩
  rintro ⟨request, accepted⟩
  have refused := GridRequest.read_of_null_sort (bundles_bundle read?_null read?_null read?_null)
    read?_null
  cases accepted.symm.trans refused

end RowQuery
