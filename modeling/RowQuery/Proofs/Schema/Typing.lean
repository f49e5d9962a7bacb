import RowQuery.Proofs.Schema.Resolution
import RowQuery.Proofs.Value.Kind

/-!
# Types of what paths lead to

What a path leads to holds values of one kind, the kind to which bounds for it are read, and nulls
only if it says so. A comparison with a bound is therefore open only on nulls and on what is not a
number, never because the kinds of the two sides differ.
-/
namespace RowQuery

/-- Whether a cell holds what is not a number. -/
def Cell.isNaN (cell : Cell) : Bool := Option.any Value.isNaN cell

theorem ResolvedProperty.kind_of_get {R : Type} {p : ResolvedProperty R} {row : R} {v : Value}
    (read : p.get row = some v) : v.kind = p.type.kind := by
  obtain ⟨x, -, rfl⟩ := Option.map_eq_some_iff.1 read
  exact Value.kind_of p.type x

/-- A bound of the property's type compares with everything but nulls and what is not a number. -/
theorem ResolvedProperty.compare?_eq_none_iff {R : Type} (p : ResolvedProperty R)
    (bound : p.type.Carrier) (row : R) :
    Cell.compare? (p.get row) (some (Value.of p.type bound)) = none ↔
      p.get row = none ∨ Cell.isNaN (p.get row) = true ∨
        (Value.of p.type bound).isNaN = true := by
  cases read : p.get row with
  | none => simp [Cell.compare?]
  | some v =>
    have kinds : v.kind = (Value.of p.type bound).kind := by
      rw [kind_of_get read, Value.kind_of]
    simp [Cell.compare?, Cell.isNaN, Value.compare?_eq_none_iff, kinds]

namespace Catalog
variable {c : Catalog} {mode : AccessMode}

/-- A property that is not nullable has a value in every row, however long the chain of links. -/
theorem Leads.nullable_of_get_eq_none {e : c.Entity} {segments : List String}
    {p : ResolvedProperty (c.Row e)} (leads : Leads c mode e segments p) {row : c.Row e}
    (null : p.get row = none) : p.nullable = true := by
  induction leads with
  | required => cases null
  | optional => rfl
  | link found kind beyond ih => simpa [ResolvedProperty.across] using ih null
  | optionalLink => simp [ResolvedProperty.across]

/-- Resolution and the reading of bounds are typed: what a path leads to holds nulls, where it is
nullable, and values of the kind of its type; every bound that is read for its type has that kind
too; so the two do not compare exactly where a null stands or one side is not a number. -/
theorem resolve_typed (e : c.Entity) (path : String) (p : ResolvedProperty (c.Row e))
    (resolved : c.resolve e path mode = .ok p) :
    (∀ row v, p.get row = some v → v.kind = p.type.kind) ∧
    (∀ row, p.get row = none → p.nullable = true) ∧
    ∀ raw bound, parseValue raw p.type = .ok bound ∨ parseNumber raw p.type = .ok bound ∨
        parseTemporal raw p.type = .ok bound →
      (Value.of p.type bound).kind = p.type.kind ∧
      ∀ row, Cell.compare? (p.get row) (some (Value.of p.type bound)) = none ↔
        p.get row = none ∨ Cell.isNaN (p.get row) = true ∨
          (Value.of p.type bound).isNaN = true := by
  refine ⟨fun row v read => p.kind_of_get read, fun row null => ?_, fun raw bound _ => ⟨?_, ?_⟩⟩
  · exact (resolve_success.1 resolved).nullable_of_get_eq_none null
  · exact Value.kind_of p.type bound
  · exact p.compare?_eq_none_iff bound

end Catalog

/-! ## A circular catalog

Employees, whose optional superior is an employee again. The schema comes from the builder. -/

structure Employee where
  name : String
  rating : Option Binary32
  superior : Option Employee

def staffBuilder : SchemaBuilder (fun _ : Unit => Employee) Employee :=
  ((({ : SchemaBuilder (fun _ : Unit => Employee) Employee}.required "Name" .text
    Employee.name).optional "Rating" .float32 Employee.rating).optionalLink "Superior" ()
      Employee.superior).column "boss"

def staff : Catalog where
  Entity := Unit
  Row _ := Employee
  name _ := "Employee"
  schema _ :=
    match staffBuilder.build "Employee" with
    | .ok schema => schema
    | .error _ => .empty

instance : DecidableEq staff.Entity := inferInstanceAs (DecidableEq Unit)

/-- The rating of an employee's superior. -/
def superiorRating : ResolvedProperty Employee where
  name := "Superior.Rating"
  type := .float32
  nullable := true
  read row := row.superior.bind Employee.rating
  column := ⟨some "boss", "Rating"⟩

theorem resolve_superiorRating :
    staff.resolve () " superior . RATING" .nullSafe = .ok superiorRating := rfl

/-- The types of a path over an optional link: an employee without a superior has a null there, and
a bound that is not a number compares with no rating. -/
theorem superiorRating_typed :
    staff.resolve () " superior . RATING" .nullSafe = .ok superiorRating ∧
    superiorRating.get ⟨"Alice", none, none⟩ = none ∧ superiorRating.nullable = true ∧
    parseNumber " NaN " .float32 = .ok (.nan false) ∧
    Cell.compare? (superiorRating.get ⟨"Bob", none, some ⟨"Alice", some default, none⟩⟩)
      (some (Value.of .float32 (.nan false))) = none := by
  have typed := Catalog.resolve_typed (c := staff) () _ superiorRating resolve_superiorRating
  have parsed : parseNumber " NaN " .float32 = .ok (.nan false) := rfl
  refine ⟨rfl, rfl, typed.2.1 ⟨"Alice", none, none⟩ rfl, parsed, ?_⟩
  exact ((typed.2.2 " NaN " (.nan false) (Or.inr (Or.inl parsed))).2 _).2 (Or.inr (Or.inr rfl))

end RowQuery
