import RowQuery.Filter.Model
import RowQuery.Error
import RowQuery.Json.Decoder
import RowQuery.Json.Reader
import RowQuery.Json.Writer

/-!
# Documents

Filter models, sort models, pages and whole requests as JSON documents. Each is read by `ofJson?`
and written by `toJson`; the functions named `read` take the text of a whole document and report a
refused one.

Several names are understood for some fields. Written documents use the first of them and leave out
what is absent from filters.
-/
namespace RowQuery
open Json

/-! ## Filters -/

/-- The members of a written record, without the absent ones. -/
def presentMembers (fields : List (String × Option Json)) : Json :=
  Json.ofMembers (fields.filterMap fun (name, value) => value.map (name, ·))

/-- The list of a set, where null stands for the null entry. -/
def setToJson (values : List (Option String)) : Json :=
  .array (values.map fun value => (value.map Json.ofString).getD .null)

namespace ConditionModel

def fieldNames : List (List String) :=
  [["filterType", "kind"], ["type"], ["filter"], ["filterTo"], ["dateFrom"], ["dateTo"], ["values"]]

def ofFields? : List (Option Json) → Option ConditionModel
  | [filterType, operator, filter, filterTo, dateFrom, dateTo, values] => do
    let filterType ← optional? text? filterType
    let operator ← optional? text? operator
    let filter ← optional? scalarText? filter
    let filterTo ← optional? scalarText? filterTo
    let dateFrom ← optional? text? dateFrom
    let dateTo ← optional? text? dateTo
    let values ← optional? (list? nullableText?) values
    return { filterType, operator, filter, filterTo, dateFrom, dateTo, values }
  | _ => none

def ofJson? (json : Json) : Option ConditionModel := (fields? 7 fieldNames json).bind ofFields?

def toJson (m : ConditionModel) : Json :=
  presentMembers
    [("filterType", m.filterType.map ofString), ("type", m.operator.map ofString),
     ("filter", m.filter.map ofString), ("filterTo", m.filterTo.map ofString),
     ("dateFrom", m.dateFrom.map ofString), ("dateTo", m.dateTo.map ofString),
     ("values", m.values.map setToJson)]

end ConditionModel

namespace FilterModel

def fieldNames : List (List String) :=
  [["filterType", "kind"], ["operator"], ["conditions"], ["type"], ["filter"], ["filterTo"],
   ["dateFrom"], ["dateTo"], ["values"]]

def ofFields? : List (Option Json) → Option FilterModel
  | [filterType, combinator, conditions, operator, filter, filterTo, dateFrom, dateTo, values] => do
    let filterType ← optional? text? filterType
    let combinator ← optional? text? combinator
    let conditions ← defaulted? (list? ConditionModel.ofJson?) [] conditions
    let operator ← optional? text? operator
    let filter ← optional? scalarText? filter
    let filterTo ← optional? scalarText? filterTo
    let dateFrom ← optional? text? dateFrom
    let dateTo ← optional? text? dateTo
    let values ← optional? (list? nullableText?) values
    return { filterType, combinator, conditions, operator, filter, filterTo, dateFrom, dateTo,
             values }
  | _ => none

def ofJson? (json : Json) : Option FilterModel := (fields? 9 fieldNames json).bind ofFields?

def toJson (m : FilterModel) : Json :=
  presentMembers
    [("filterType", m.filterType.map ofString), ("operator", m.combinator.map ofString),
     ("conditions",
       if m.conditions.isEmpty then none else some (.array (m.conditions.map (·.toJson)))),
     ("type", m.operator.map ofString),
     ("filter", m.filter.map ofString), ("filterTo", m.filterTo.map ofString),
     ("dateFrom", m.dateFrom.map ofString), ("dateTo", m.dateTo.map ofString),
     ("values", m.values.map setToJson)]

end FilterModel

namespace FilterMap

/-- The entries of an object; of several with one path the last counts. -/
def ofJson? (json : Json) : Option FilterMap := do
  let members ← json.members?
  let entries ← members.mapM fun (path, value) =>
    (optional? FilterModel.ofJson? (some value)).map (path, ·)
  return entries.foldl (fun m (path, model) => m.insert path model) empty

def toJson (m : FilterMap) : Json :=
  Json.ofMembers (m.entries.map fun (path, model) => (path, (model.map (·.toJson)).getD .null))

end FilterMap

/-! ## Sorts -/

namespace SortOrder

def ofName? (name : String) : Option SortOrder :=
  if ["asc", "ASC", "Asc"].contains name then some asc
  else if ["desc", "DESC", "Desc"].contains name then some desc
  else none

/-- An order by its name, or as an object whose only member has that name and the value null. -/
def ofJson? : Json → Option SortOrder
  | .string s => s.bind ofName?
  | .object [(some name, .null)] => ofName? name
  | _ => none

def name : SortOrder → String
  | asc => "asc"
  | desc => "desc"

end SortOrder

namespace SortModel

def fieldNames : List (List String) := [["property", "colId"], ["order", "sort", "direction"]]

def ofFields? : List (Option Json) → Option SortModel
  | [property, order] => do
    let property ← property.bind text?
    let order ← defaulted? SortOrder.ofJson? .asc order
    return { property, order }
  | _ => none

def ofJson? (json : Json) : Option SortModel := (fields? 1 fieldNames json).bind ofFields?

def toJson (m : SortModel) : Json :=
  Json.ofMembers [("property", .ofString m.property), ("order", .ofString m.order.name)]

end SortModel

/-- A list of sort models. -/
def sortsOfJson? (json : Json) : Option (List SortModel) := list? SortModel.ofJson? json

def sortsToJson (sorts : List SortModel) : Json := .array (sorts.map (·.toJson))

/-! ## Pages and requests -/

namespace Pagination

def fieldNames : List (List String) := [["startRow"], ["endRow"]]

def ofFields? : List (Option Json) → Option Pagination
  | [startRow, endRow] => do
    let startRow ← startRow.bind nat64?
    let endRow ← endRow.bind nat64?
    return { startRow, endRow }
  | _ => none

def ofJson? (json : Json) : Option Pagination := (fields? 2 fieldNames json).bind ofFields?

def toJson (p : Pagination) : Json :=
  Json.ofMembers [("startRow", .ofNat p.startRow.toNat), ("endRow", .ofNat p.endRow.toNat)]

end Pagination

namespace GridRequest

def fieldNames : List (List String) := [["filter"], ["sort"], ["pagination"]]

def ofFields? : List (Option Json) → Option GridRequest
  | [filter, sort, pagination] => do
    let filter ← optional? FilterMap.ofJson? filter
    let sort ← defaulted? sortsOfJson? [] sort
    let pagination ← optional? Pagination.ofJson? pagination
    return { filter, sort, pagination }
  | _ => none

def ofJson? (json : Json) : Option GridRequest := (fields? 0 fieldNames json).bind ofFields?

def toJson (r : GridRequest) : Json :=
  Json.ofMembers
    [("filter", (r.filter.map (·.toJson)).getD .null), ("sort", sortsToJson r.sort),
     ("pagination", (r.pagination.map (·.toJson)).getD .null)]

end GridRequest

/-! ## Texts of documents -/

/-- The datum that the text of a document holds. -/
def readDocument {α : Type} (kind : DocumentKind) (decode? : Json → Option α) (text : String) :
    Except FilterError α :=
  match (Json.read? text).bind decode? with
  | some datum => .ok datum
  | none => .error (.invalidJson kind)

/-- A map of filters, where null is the empty map. -/
def FilterMap.read (text : String) : Except FilterError FilterMap :=
  (readDocument .filter (fun json => optional? FilterMap.ofJson? (some json)) text).map
    (·.getD .empty)

/-- A list of sort models, where null is the empty list. -/
def readSorts (text : String) : Except FilterError (List SortModel) :=
  (readDocument .sort (fun json => optional? sortsOfJson? (some json)) text).map (·.getD [])

/-- A page, or null for all rows. -/
def readPagination (text : String) : Except FilterError (Option Pagination) :=
  readDocument .pagination (fun json => optional? Pagination.ofJson? (some json)) text

/-- A whole request. -/
def GridRequest.read (text : String) : Except FilterError GridRequest :=
  readDocument .request GridRequest.ofJson? text

/-- The filter of one property. -/
def FilterModel.read (text : String) : Except FilterError FilterModel :=
  readDocument .filter FilterModel.ofJson? text

/-- One condition of a composite filter. -/
def ConditionModel.read (text : String) : Except FilterError ConditionModel :=
  readDocument .condition ConditionModel.ofJson? text

end RowQuery
