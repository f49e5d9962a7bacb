import RowQuery.ValueType
import RowQuery.Filter.Kind

/-!
# Errors

Every way in which a filter or a schema can be refused, by its cause. The wording is in one place,
`FilterError.message` and `SchemaError.message`.
-/
namespace RowQuery

/-- The fields that hold the bounds of a condition. -/
inductive BoundField where
  | filter | filterTo | dateFrom | dateTo
  deriving DecidableEq, Repr

def BoundField.name : BoundField → String
  | filter => "filter"
  | filterTo => "filterTo"
  | dateFrom => "dateFrom"
  | dateTo => "dateTo"

/-- The documents that are read from JSON. -/
inductive DocumentKind where
  | filter | condition | sort | pagination | request
  deriving DecidableEq, Repr

def DocumentKind.name : DocumentKind → String
  | filter => "filter"
  | condition => "condition"
  | sort => "sort"
  | pagination => "pagination"
  | request => "grid request"

/-- What is wrong with the shape of a filter. -/
inductive Malformation where
  /-- The word that should join the conditions is neither of the two. -/
  | unknownCombinator (word : String)
  /-- There are conditions and nothing that joins them. -/
  | missingCombinator
  /-- There is a combinator and nothing to join. -/
  | noConditions
  /-- A condition is not of the filter's kind. -/
  | strayCondition (condition filter : FilterKind)
  deriving DecidableEq, Repr

def Malformation.message : Malformation → String
  | unknownCombinator word => "composite operator '" ++ word ++ "' must be 'and' or 'or'"
  | missingCombinator => "conditions require an 'and' or 'or' operator"
  | noConditions => "composite filter has no conditions"
  | strayCondition condition filter =>
    condition.name ++ " condition inside a " ++ filter.name ++ " filter"

inductive FilterError where
  /-- No property of the entity matches a segment of the path. -/
  | propertyNotFound (entity path segment : String)
  /-- Direct access would have to pass a link that may be absent. -/
  | unguardedOptionalPath (path link : String)
  | unknownFilterType (name : String)
  | unsupportedOperator (kind : FilterKind) (operator : String)
  | missingFilterValue (field : BoundField) (operator : String)
  /-- A bound is not the text of a value of the property's type. -/
  | invalidFilterValue (value : String) (target : ValueType)
  | malformedFilter (cause : Malformation)
  | invalidJson (document : DocumentKind)
  deriving DecidableEq, Repr

def FilterError.message : FilterError → String
  | propertyNotFound entity path segment =>
    "property '" ++ segment ++ "' of path '" ++ path ++ "' not found on " ++ entity
  | unguardedOptionalPath path link =>
    "path '" ++ path ++ "' crosses optional link '" ++ link ++ "' and requires null-safe access"
  | unknownFilterType name => "unknown filter type '" ++ name ++ "'"
  | unsupportedOperator kind operator =>
    "operator '" ++ operator ++ "' is not supported by " ++ kind.name ++ " filters"
  | missingFilterValue field operator => field.name ++ " value is required for " ++ operator
  | invalidFilterValue value target => "cannot convert '" ++ value ++ "' to " ++ target.name
  | malformedFilter cause => "malformed filter: " ++ cause.message
  | invalidJson document => "invalid " ++ document.name ++ " JSON"

inductive SchemaError where
  /-- Two properties of the entity have the same name up to case. -/
  | duplicateProperty (entity property : String)
  deriving DecidableEq, Repr

def SchemaError.message : SchemaError → String
  | duplicateProperty entity property =>
    "property '" ++ property ++ "' registered twice on " ++ entity

end RowQuery
