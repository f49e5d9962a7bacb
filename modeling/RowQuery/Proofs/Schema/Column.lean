import RowQuery.Proofs.Schema.Route
import RowQuery.Proofs.Schema.Typing

/-!
# Columns of nested properties

A nested column is qualified by one name only, the alias of the last link crossed. So a column tells
from which link and leaf it comes, but not over which links a path arrives there: where two chains
reach one link, or two entities use one alias, different properties share a column. This happens in
no other case, provided that the columns and aliases within each schema are distinct.
-/
namespace RowQuery

theorem PropertyKind.LeadsTo.target_eq {Entity : Type} {Row : Entity → Type} {R : Type}
    {kind : PropertyKind Row R} {f g : Entity} {o p : Bool} {follow : R → Option (Row f)}
    {other : R → Option (Row g)} (left : kind.LeadsTo f o follow)
    (right : kind.LeadsTo g p other) : f = g := by
  cases left <;> cases right <;> rfl

namespace Catalog
variable {c : Catalog} {e f g : c.Entity}

/-- Within each schema no two properties have one column; the column of a link is its alias. -/
def DistinctColumns (c : Catalog) : Prop :=
  ∀ e : c.Entity, ((c.schema e).properties.map (·.column)).Nodup

theorem DistinctColumns.eq_of_column (distinct : c.DistinctColumns)
    {p q : Property c.Row (c.Row e)} (left : p ∈ (c.schema e).properties)
    (right : q ∈ (c.schema e).properties) (same : p.column = q.column) : p = q :=
  List.inj_on_of_nodup_map (distinct e) left right same

/-- Null-safe access finds whatever direct access finds. -/
theorem Leads.nullSafe {mode : AccessMode} {segments : List String}
    {p : ResolvedProperty (c.Row e)} (leads : Leads c mode e segments p) :
    Leads c .nullSafe e segments p := by
  induction leads with
  | required found kind => exact .required found kind
  | optional found kind => exact .optional found kind
  | link found kind _ ih => exact .link found kind ih
  | optionalLink found kind _ _ ih => exact .optionalLink found kind (by decide) ih

/-! ## The last link of a route -/

namespace Route

/-- The route with one more link at its end. -/
def snoc : {e f g : c.Entity} → Route c e f → Hop c f g → Route c e g
  | _, _, _, here _, last => cross last (here _)
  | _, _, _, cross hop rest, last => cross hop (rest.snoc last)

theorem names_snoc (front : Route c e f) (last : Hop c f g) :
    (front.snoc last).names = front.names ++ [last.property.name] := by
  induction front with
  | here e => rfl
  | cross hop rest ih => rw [snoc, names, ih, names, List.cons_append]

theorem tables_snoc (front : Route c e f) (last : Hop c f g) :
    (front.snoc last).tables = front.tables ++ [last.property.column] := by
  induction front with
  | here e => rfl
  | cross hop rest ih => rw [snoc, tables, ih, tables, List.cons_append]

/-- A nested column stands in the table of the last link. -/
theorem column_snoc (front : Route c e f) (last : Hop c f g) (leaf : Leaf c g) :
    ((front.snoc last).resolved leaf).column =
      ⟨some last.property.column, leaf.property.column⟩ := by
  rw [resolved, tables_snoc, List.getLast?_concat]

/-- A route read from its end: it has no links, or it has a last one. -/
inductive Ending : {e f : c.Entity} → Route c e f → Prop where
  | here (e : c.Entity) : Ending (Route.here e)
  | snoc {e f g : c.Entity} (front : Route c e f) (last : Hop c f g) : Ending (front.snoc last)

theorem ending (route : Route c e f) : Ending route := by
  induction route with
  | here e => exact .here e
  | cross hop rest ih =>
    cases ih with
    | here => exact .snoc (.here _) hop
    | snoc front last => exact .snoc (.cross hop front) last

end Route

/-- Whatever a path resolves to, in either mode, is read off a route. -/
theorem exists_follows {mode : AccessMode} {path : String} {p : ResolvedProperty (c.Row e)}
    (resolved : c.resolve e path mode = .ok p) :
    ∃ f, ∃ route : Route c e f, ∃ leaf : Leaf c f,
      Follows path route leaf ∧ p = route.resolved leaf := by
  have leads := (resolve_success.1 resolved).nullSafe
  rcases route_or_strays e (pathSegments_ne_nil path) with ⟨f, route, leaf, along⟩ | strays
  · have led := resolveSegments_route path route leaf along
    exact ⟨f, route, leaf, along,
      Except.ok.inj ((resolveSegments_of_leads path leads).symm.trans led)⟩
  · obtain ⟨f, segment, strays⟩ := strays
    cases (resolveSegments_of_leads path leads).symm.trans (resolveSegments_of_strays path strays)

/-! ## Paths that share a column -/

/-- Two paths end in the same way: the last links they cross have one alias, and their leaves one
column. If the last links are registered for one entity, then they are one link with one leaf, and
the paths arrive there over different links. -/
def EndAlike (c : Catalog) (e : c.Entity) (path₁ path₂ : String) : Prop :=
  ∃ (f₁ f₂ g₁ g₂ : c.Entity) (front₁ : Route c e f₁) (front₂ : Route c e f₂)
    (last₁ : Hop c f₁ g₁) (last₂ : Hop c f₂ g₂) (leaf₁ : Leaf c g₁) (leaf₂ : Leaf c g₂),
    Follows path₁ (front₁.snoc last₁) leaf₁ ∧ Follows path₂ (front₂.snoc last₂) leaf₂ ∧
    last₁.property.column = last₂.property.column ∧
    leaf₁.property.column = leaf₂.property.column ∧
    (f₁ = f₂ → last₁.property.name = last₂.property.name ∧ g₁ = g₂ ∧
      leaf₁.property.name = leaf₂.property.name ∧ front₁.names ≠ front₂.names)

/-- Two links of one entity with one alias, before leaves with one column, are one link and one
leaf. -/
theorem DistinctColumns.same_ending (distinct : c.DistinctColumns) {g₁ g₂ : c.Entity}
    {last₁ : Hop c f g₁} {last₂ : Hop c f g₂} {leaf₁ : Leaf c g₁} {leaf₂ : Leaf c g₂}
    (table : last₁.property.column = last₂.property.column)
    (column : leaf₁.property.column = leaf₂.property.column) :
    last₁.property.name = last₂.property.name ∧ g₁ = g₂ ∧
      leaf₁.property.name = leaf₂.property.name := by
  have link := distinct.eq_of_column last₁.registered last₂.registered table
  have right := last₂.leads
  rw [← link] at right
  obtain rfl := last₁.leads.target_eq right
  have value := distinct.eq_of_column leaf₁.registered leaf₂.registered column
  rw [link, value]
  exact ⟨rfl, rfl, rfl⟩

/-- Where columns and aliases are distinct within each schema, paths that resolve to different
properties share a column exactly when they end alike. So a property of the entity itself shares its
column with no other, and nested ones whose last links are registered for one entity do so only as
the same leaf behind the same link. -/
theorem column_eq_iff_endAlike (distinct : c.DistinctColumns) (e : c.Entity)
    (path₁ path₂ : String) (mode₁ mode₂ : AccessMode) (p₁ p₂ : ResolvedProperty (c.Row e))
    (resolved₁ : c.resolve e path₁ mode₁ = .ok p₁) (resolved₂ : c.resolve e path₂ mode₂ = .ok p₂)
    (apart : p₁.name ≠ p₂.name) : p₁.column = p₂.column ↔ EndAlike c e path₁ path₂ := by
  obtain ⟨f₁, route₁, leaf₁, follows₁, rfl⟩ := exists_follows resolved₁
  obtain ⟨f₂, route₂, leaf₂, follows₂, rfl⟩ := exists_follows resolved₂
  constructor
  · intro same
    cases route₁.ending with
    | here =>
      cases route₂.ending with
      | here =>
        have column : leaf₁.property.column = leaf₂.property.column := congrArg Sql.Column.name same
        have value := distinct.eq_of_column leaf₁.registered leaf₂.registered column
        exact absurd (by rw [Route.resolved, Route.resolved, value]) apart
      | snoc front₂ last₂ =>
        rw [Route.column_snoc] at same
        cases congrArg Sql.Column.table same
    | snoc front₁ last₁ =>
      rw [Route.column_snoc] at same
      cases route₂.ending with
      | here => cases congrArg Sql.Column.table same
      | snoc front₂ last₂ =>
        rw [Route.column_snoc, Sql.Column.mk.injEq, Option.some.injEq] at same
        obtain ⟨table, column⟩ := same
        refine ⟨_, _, _, _, front₁, front₂, last₁, last₂, leaf₁, leaf₂, follows₁, follows₂, table,
          column, ?_⟩
        rintro rfl
        obtain ⟨link, target, value⟩ := distinct.same_ending table column
        refine ⟨link, target, value, fun fronts => apart ?_⟩
        rw [Route.resolved, Route.resolved, Route.names_snoc, Route.names_snoc, fronts, link, value]
  · rintro ⟨_, _, _, _, front₁, front₂, last₁, last₂, end₁, end₂, along₁, along₂, table, column, -⟩
    have first := Except.ok.inj (follows₁.resolve.symm.trans along₁.resolve)
    have second := Except.ok.inj (follows₂.resolve.symm.trans along₂.resolve)
    rw [first, second, Route.column_snoc, Route.column_snoc, table, column]

end Catalog

/-! ## Employees and their superiors -/

/-- The rating of the superior of an employee's superior. -/
def secondSuperiorRating : ResolvedProperty Employee where
  name := "Superior.Superior.Rating"
  type := .float32
  nullable := true
  read row := row.superior.bind fun boss => boss.superior.bind Employee.rating
  column := ⟨some "boss", "Rating"⟩

theorem staff_distinctColumns : staff.DistinctColumns := by
  intro e
  change (["Name", "Rating", "boss"] : List String).Nodup
  decide

/-- Different properties may share a column although the columns and aliases within the one schema
are distinct: the ratings of the superior and of the superior's superior. -/
theorem superiors_share_column :
    staff.DistinctColumns ∧
    staff.resolve () "superior.rating" .nullSafe = .ok superiorRating ∧
    staff.resolve () "superior.superior.rating" .nullSafe = .ok secondSuperiorRating ∧
    superiorRating.name ≠ secondSuperiorRating.name ∧
    superiorRating.column = secondSuperiorRating.column :=
  ⟨staff_distinctColumns, rfl, rfl, by decide, rfl⟩

/-- The two paths to these ratings end alike. -/
theorem superiors_endAlike :
    staff.DistinctColumns ∧
    staff.resolve () "superior.rating" .nullSafe = .ok superiorRating ∧
    staff.resolve () "superior.superior.rating" .nullSafe = .ok secondSuperiorRating ∧
    superiorRating.name ≠ secondSuperiorRating.name ∧
    Catalog.EndAlike staff () "superior.rating" "superior.superior.rating" := by
  have first : staff.resolve () "superior.rating" .nullSafe = .ok superiorRating := rfl
  have second : staff.resolve () "superior.superior.rating" .nullSafe = .ok secondSuperiorRating :=
    rfl
  have apart : superiorRating.name ≠ secondSuperiorRating.name := by decide
  refine ⟨staff_distinctColumns, first, second, apart, ?_⟩
  exact (Catalog.column_eq_iff_endAlike (c := staff) staff_distinctColumns () _ _ _ _ _ _ first
    second apart).1 rfl

end RowQuery
