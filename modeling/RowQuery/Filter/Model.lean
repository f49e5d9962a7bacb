/-!
# Filter models

Requests as they arrive: all fields optional, bounds and operators still texts. A model states a
plain filter by an operator and its bounds, or a composite one by a combinator and conditions.
-/
namespace RowQuery

/-- One condition of a composite filter. -/
structure ConditionModel where
  filterType : Option String := none
  operator : Option String := none
  filter : Option String := none
  filterTo : Option String := none
  dateFrom : Option String := none
  dateTo : Option String := none
  values : Option (List (Option String)) := none
  deriving DecidableEq, Repr

/-- The filter of one property. -/
structure FilterModel where
  filterType : Option String := none
  combinator : Option String := none
  conditions : List ConditionModel := []
  operator : Option String := none
  filter : Option String := none
  filterTo : Option String := none
  dateFrom : Option String := none
  dateTo : Option String := none
  values : Option (List (Option String)) := none
  deriving DecidableEq, Repr

/-- The condition that a model states as a plain filter. -/
def FilterModel.plainCondition (m : FilterModel) : ConditionModel :=
  ⟨m.filterType, m.operator, m.filter, m.filterTo, m.dateFrom, m.dateTo, m.values⟩

/-- Filters by the paths of their properties, each path once. An entry without a filter asks for
nothing. -/
structure FilterMap where
  entries : List (String × Option FilterModel)
  nodup : (entries.map Prod.fst).Nodup
  deriving DecidableEq, Repr

namespace FilterMap

def empty : FilterMap := ⟨[], List.nodup_nil⟩

/-- The map with a new entry at its end, in place of any older one of the same path. -/
def insert (m : FilterMap) (path : String) (model : Option FilterModel) : FilterMap where
  entries := m.entries.filter (fun entry => entry.1 != path) ++ [(path, model)]
  nodup := by
    rw [List.map_append, List.nodup_append]
    refine ⟨m.nodup.sublist (List.filter_sublist.map _), by simp, ?_⟩
    intro a ha b hb
    obtain ⟨entry, hmem, rfl⟩ := List.mem_map.1 ha
    simp only [List.map_cons, List.map_nil, List.mem_singleton] at hb
    subst hb
    simpa using (List.mem_filter.1 hmem).2

end FilterMap

inductive SortOrder where
  | asc | desc
  deriving DecidableEq, Repr

/-- One key of a sort. -/
structure SortModel where
  property : String
  order : SortOrder := .asc
  deriving DecidableEq, Repr

/-- The start row and the end row of a window of rows, which count from one. -/
structure Pagination where
  startRow : UInt64
  endRow : UInt64
  deriving DecidableEq, Repr

/-- A whole request. -/
structure GridRequest where
  filter : Option FilterMap := none
  sort : List SortModel := []
  pagination : Option Pagination := none
  deriving DecidableEq, Repr

end RowQuery
