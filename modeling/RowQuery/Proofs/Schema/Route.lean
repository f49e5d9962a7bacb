import Mathlib.Data.List.Nodup
import RowQuery.Proofs.Schema.Resolution
import RowQuery.Proofs.Text.Search

/-!
# Routes

What a path says, apart from how it is resolved. A route is a chain of links, each registered for
the entity at which the one before it arrives; at its end stands a property that holds values. The
name, the nullability and the column of what the path leads to are read off the route as a whole.
Resolution, which builds them from the end of the path backwards, finds exactly what routes
describe, and its failures are the three ways in which a path can leave the schemas.
-/
namespace RowQuery

section
variable {Entity : Type} {Row : Entity → Type} {R : Type}

/-- The kind of a property that holds values: their type, whether they may be null, and how a row
yields one. -/
inductive PropertyKind.Holds :
    PropertyKind Row R → (τ : ValueType) → (nullable : Bool) → (R → Option τ.Carrier) → Prop where
  | required (τ : ValueType) (get : R → τ.Carrier) :
      Holds (.required τ get) τ false fun row => some (get row)
  | optional (τ : ValueType) (get : R → Option τ.Carrier) : Holds (.optional τ get) τ true get

/-- The kind of a property that is a link: its target, whether it is optional, and the row to which
a row leads. -/
inductive PropertyKind.LeadsTo :
    PropertyKind Row R → (target : Entity) → (optional : Bool) → (R → Option (Row target)) →
      Prop where
  | link (target : Entity) (get : R → Row target) :
      LeadsTo (.link target get) target false fun row => some (get row)
  | optionalLink (target : Entity) (get : R → Option (Row target)) :
      LeadsTo (.optionalLink target get) target true get

theorem Schema.find?_eq_none_iff {s : Schema Row R} {segment : String} :
    s.find? segment = none ↔ ∀ q ∈ s.properties, nameKey q.name ≠ nameKey segment := by
  simp [find?, Property.key]

/-- Names are unique, so that a segment names the property that answers to it. -/
theorem Schema.find?_eq_some_iff {s : Schema Row R} {segment : String} {q : Property Row R} :
    s.find? segment = some q ↔ q ∈ s.properties ∧ nameKey q.name = nameKey segment := by
  constructor
  · intro found
    have named := List.find?_some found
    exact ⟨List.mem_of_find?_eq_some found, by simpa [Property.key] using named⟩
  · rintro ⟨registered, named⟩
    cases found : s.find? segment with
    | none => exact absurd named (find?_eq_none_iff.1 found q registered)
    | some other =>
      have answers : other.key = q.key := by
        have := List.find?_some found
        simp only [beq_iff_eq] at this
        rw [this, Property.key, named]
      rw [List.inj_on_of_nodup_map s.nodup (List.mem_of_find?_eq_some found) registered answers]

end

namespace Catalog

/-- A link of one entity to another, as it is registered. -/
structure Hop (c : Catalog) (e target : c.Entity) where
  property : Property c.Row (c.Row e)
  optional : Bool
  follow : c.Row e → Option (c.Row target)
  registered : property ∈ (c.schema e).properties
  leads : property.kind.LeadsTo target optional follow

/-- A property that holds values, as it is registered. -/
structure Leaf (c : Catalog) (e : c.Entity) where
  property : Property c.Row (c.Row e)
  type : ValueType
  nullable : Bool
  read : c.Row e → Option type.Carrier
  registered : property ∈ (c.schema e).properties
  holds : property.kind.Holds type nullable read

/-- A chain of links from one entity to another. -/
inductive Route (c : Catalog) : c.Entity → c.Entity → Type where
  | here (e : c.Entity) : Route c e e
  | cross {e target f : c.Entity} (hop : Hop c e target) (rest : Route c target f) : Route c e f

variable {c : Catalog} {e f g : c.Entity}

/-- What a schema registers either holds values or is a link. -/
theorem leaf_or_hop {q : Property c.Row (c.Row e)} (registered : q ∈ (c.schema e).properties) :
    (∃ leaf : Leaf c e, leaf.property = q) ∨
      ∃ target, ∃ hop : Hop c e target, hop.property = q := by
  obtain ⟨name, column, kind⟩ := q
  cases kind with
  | required τ get => exact Or.inl ⟨⟨_, τ, false, _, registered, .required τ get⟩, rfl⟩
  | optional τ get => exact Or.inl ⟨⟨_, τ, true, _, registered, .optional τ get⟩, rfl⟩
  | link target get => exact Or.inr ⟨target, ⟨_, false, _, registered, .link target get⟩, rfl⟩
  | optionalLink target get =>
    exact Or.inr ⟨target, ⟨_, true, _, registered, .optionalLink target get⟩, rfl⟩

namespace Route

/-- The names of the links as they were registered. -/
def names : {e f : c.Entity} → Route c e f → List String
  | _, _, here _ => []
  | _, _, cross hop rest => hop.property.name :: rest.names

/-- The names under which the tables behind the links are joined. -/
def tables : {e f : c.Entity} → Route c e f → List String
  | _, _, here _ => []
  | _, _, cross hop rest => hop.property.column :: rest.tables

/-- Whether any of the links is optional. -/
def optional : {e f : c.Entity} → Route c e f → Bool
  | _, _, here _ => false
  | _, _, cross hop rest => hop.optional || rest.optional

/-- The row at the end, unless a link on the way is absent. -/
def follow : {e f : c.Entity} → Route c e f → c.Row e → Option (c.Row f)
  | _, _, here _, row => some row
  | _, _, cross hop rest, row => (hop.follow row).bind rest.follow

/-- What a path over the route to a leaf leads to. -/
def resolved (route : Route c e f) (leaf : Leaf c f) : ResolvedProperty (c.Row e) where
  name := ".".intercalate (route.names ++ [leaf.property.name])
  type := leaf.type
  nullable := leaf.nullable || route.optional
  read row := (route.follow row).bind leaf.read
  column := ⟨route.tables.getLast?, leaf.property.column⟩

/-- A property of the entity at the end of the route, seen from its start. -/
def seen : {e f : c.Entity} → Route c e f →
    ResolvedProperty (c.Row f) → ResolvedProperty (c.Row e)
  | _, _, here _, p => p
  | _, _, cross hop rest, p =>
    (rest.seen p).across hop.property.name hop.property.column hop.optional hop.follow

theorem intercalate_cons_of_ne_nil (separator first : String) {rest : List String}
    (more : rest ≠ []) :
    separator.intercalate (first :: rest) = first ++ separator ++ separator.intercalate rest := by
  obtain ⟨next, others, rfl⟩ := List.exists_cons_of_ne_nil more
  exact String.intercalate_cons_cons

/-- Seen link by link, a leaf has the names of all links and the table of the last one. -/
theorem seen_leaf (route : Route c e f) (leaf : Leaf c f) :
    route.seen ((here f).resolved leaf) = route.resolved leaf := by
  induction route with
  | here e => rfl
  | cross hop rest ih =>
    rw [seen, ih]
    have more : rest.names ++ [leaf.property.name] ≠ [] := by simp
    have named := intercalate_cons_of_ne_nil "." hop.property.name more
    simp [ResolvedProperty.across, resolved, names, tables, optional, follow, named,
      List.getLast?_cons, Bool.or_comm, Bool.or_left_comm, Option.bind_assoc]

end Route

/-! ## Resolution along a route -/

variable (path : String) {mode : AccessMode} {segment next : String} {rest before : List String}

theorem resolveSegments_leaf (leaf : Leaf c e)
    (named : nameKey segment = nameKey leaf.property.name) :
    c.resolveSegments path mode e [segment] = .ok ((Route.here e).resolved leaf) := by
  have found := Schema.find?_eq_some_iff.2 ⟨leaf.registered, named.symm⟩
  obtain ⟨⟨name, column, kind⟩, τ, nullable, read, registered, holds⟩ := leaf
  cases holds <;> simp [resolveSegments, found, Route.resolved, Route.names, Route.tables,
    Route.optional, Route.follow]

theorem resolveSegments_beyond_leaf (leaf : Leaf c e)
    (named : nameKey segment = nameKey leaf.property.name) :
    c.resolveSegments path mode e (segment :: next :: rest) =
      .error (.propertyNotFound (c.name e) path next) := by
  have found := Schema.find?_eq_some_iff.2 ⟨leaf.registered, named.symm⟩
  obtain ⟨⟨name, column, kind⟩, τ, nullable, read, registered, holds⟩ := leaf
  cases holds <;> simp [resolveSegments, found]

theorem resolveSegments_hop (hop : Hop c e g)
    (named : nameKey segment = nameKey hop.property.name) :
    c.resolveSegments path mode e [segment] =
      .error (.propertyNotFound (c.name e) path hop.property.name) := by
  have found := Schema.find?_eq_some_iff.2 ⟨hop.registered, named.symm⟩
  obtain ⟨⟨name, column, kind⟩, optional, follow, registered, leads⟩ := hop
  cases leads <;> simp [resolveSegments, found]

/-- A link passes on what the rest of the path leads to from its target. -/
theorem resolveSegments_hop_next (hop : Hop c e g)
    (named : nameKey segment = nameKey hop.property.name) (more : rest ≠ []) :
    c.resolveSegments path .nullSafe e (segment :: rest) =
      (c.resolveSegments path .nullSafe g rest).map fun inner =>
        inner.across hop.property.name hop.property.column hop.optional hop.follow := by
  have found := Schema.find?_eq_some_iff.2 ⟨hop.registered, named.symm⟩
  obtain ⟨next, others, rfl⟩ := List.exists_cons_of_ne_nil more
  obtain ⟨⟨name, column, kind⟩, optional, follow, registered, leads⟩ := hop
  cases leads <;> rw [resolveSegments] <;> simp only [found] <;>
    cases c.resolveSegments path .nullSafe g (next :: others) <;> rfl

/-- Segments that name the links of a route leave what follows them to the entity at its end. -/
theorem resolveSegments_along (route : Route c e f)
    (along : before.map nameKey = route.names.map nameKey) (more : rest ≠ []) :
    c.resolveSegments path .nullSafe e (before ++ rest) =
      (c.resolveSegments path .nullSafe f rest).map route.seen := by
  induction route generalizing before with
  | here e =>
    rw [Route.names, List.map_nil, List.map_eq_nil_iff] at along
    subst along
    rw [List.nil_append]
    cases c.resolveSegments path .nullSafe e rest <;> rfl
  | cross hop others ih =>
    cases before with
    | nil => cases along
    | cons segment before =>
      obtain ⟨named, along⟩ := List.cons.inj along
      rw [List.cons_append, resolveSegments_hop_next path hop named (by simp [more]), ih along]
      cases c.resolveSegments path .nullSafe _ rest <;> rfl

theorem exists_last_of_map_nameKey {segments names : List String} {name : String}
    (along : segments.map nameKey = (names ++ [name]).map nameKey) :
    ∃ before segment, segments = before ++ [segment] ∧
      before.map nameKey = names.map nameKey ∧ nameKey segment = nameKey name := by
  rw [List.map_append, List.map_eq_append_iff] at along
  obtain ⟨before, last, rfl, along, ends⟩ := along
  obtain ⟨segment, rfl, named⟩ := List.map_eq_singleton_iff.1 ends
  exact ⟨before, segment, rfl, along, named⟩

theorem resolveSegments_route (route : Route c e f) (leaf : Leaf c f) {segments : List String}
    (along : segments.map nameKey = (route.names ++ [leaf.property.name]).map nameKey) :
    c.resolveSegments path .nullSafe e segments = .ok (route.resolved leaf) := by
  obtain ⟨before, segment, rfl, along, named⟩ := exists_last_of_map_nameKey along
  rw [resolveSegments_along path route along (by simp), resolveSegments_leaf path leaf named,
    Except.map, route.seen_leaf]

/-! ## Where paths end without a value -/

/-- A path leaves the schemas at an entity: at a segment that names nothing there, at the one after
a property that holds values, or at its end, by the name of the link on which it ends. -/
inductive Strays (c : Catalog) (e : c.Entity) (segments : List String) :
    (f : c.Entity) → (segment : String) → Prop where
  | unknown {f : c.Entity} (route : Route c e f) {before after : List String} {segment : String}
      (split : segments = before ++ segment :: after)
      (along : before.map nameKey = route.names.map nameKey)
      (absent : ∀ q ∈ (c.schema f).properties, nameKey q.name ≠ nameKey segment) :
      Strays c e segments f segment
  | beyondLeaf {f : c.Entity} (route : Route c e f) (leaf : Leaf c f)
      {before after : List String} {segment : String}
      (split : segments = before ++ segment :: after)
      (along : before.map nameKey = (route.names ++ [leaf.property.name]).map nameKey) :
      Strays c e segments f segment
  | atLink {f g : c.Entity} (route : Route c e f) (hop : Hop c f g)
      (along : segments.map nameKey = (route.names ++ [hop.property.name]).map nameKey) :
      Strays c e segments f hop.property.name

theorem resolveSegments_of_strays {segments : List String}
    (strays : Strays c e segments f segment) :
    c.resolveSegments path .nullSafe e segments =
      .error (.propertyNotFound (c.name f) path segment) := by
  cases strays with
  | unknown route split along absent =>
    have missing := Schema.find?_eq_none_iff.2 absent
    rw [split, resolveSegments_along path route along (by simp), resolveSegments]
    simp only [missing]
    rfl
  | beyondLeaf route leaf split along =>
    obtain ⟨before, own, rfl, along, named⟩ := exists_last_of_map_nameKey along
    rw [split, List.append_assoc, resolveSegments_along path route along (by simp),
      List.singleton_append, resolveSegments_beyond_leaf path leaf named]
    rfl
  | atLink route hop along =>
    obtain ⟨before, own, rfl, along, named⟩ := exists_last_of_map_nameKey along
    rw [resolveSegments_along path route along (by simp), resolveSegments_hop path hop named]
    rfl

/-- Beyond a link, a path strays where the rest of it does. -/
theorem Strays.cross {segments : List String} (hop : Hop c e g)
    (named : nameKey segment = nameKey hop.property.name) {culprit : String}
    (strays : Strays c g segments f culprit) : Strays c e (segment :: segments) f culprit := by
  cases strays with
  | unknown route split along absent =>
    exact .unknown (.cross hop route) (by rw [split, List.cons_append])
      (by rw [List.map_cons, named, along, Route.names, List.map_cons]) absent
  | beyondLeaf route leaf split along =>
    exact .beyondLeaf (.cross hop route) leaf (by rw [split, List.cons_append])
      (by rw [List.map_cons, named, along, Route.names, List.cons_append, List.map_cons])
  | atLink route last along =>
    exact .atLink (.cross hop route) last
      (by rw [List.map_cons, named, along, Route.names, List.cons_append, List.map_cons])

/-- Every path follows a route to a leaf, or strays. -/
theorem route_or_strays (e : c.Entity) {segments : List String} (nonempty : segments ≠ []) :
    (∃ f, ∃ route : Route c e f, ∃ leaf : Leaf c f,
      segments.map nameKey = (route.names ++ [leaf.property.name]).map nameKey) ∨
    ∃ f segment, Strays c e segments f segment := by
  induction segments generalizing e with
  | nil => exact absurd rfl nonempty
  | cons segment rest ih =>
    cases found : (c.schema e).find? segment with
    | none =>
      exact Or.inr ⟨e, segment, .unknown (.here e) (List.nil_append _).symm rfl
        (Schema.find?_eq_none_iff.1 found)⟩
    | some q =>
      obtain ⟨registered, named⟩ := Schema.find?_eq_some_iff.1 found
      rcases leaf_or_hop registered with ⟨leaf, rfl⟩ | ⟨target, hop, rfl⟩
      · cases rest with
        | nil => exact Or.inl ⟨e, .here e, leaf, by simp [Route.names, named]⟩
        | cons next others =>
          have split : segment :: next :: others = [segment] ++ next :: others := rfl
          exact Or.inr ⟨e, next, .beyondLeaf (.here e) leaf split (by simp [Route.names, named])⟩
      · by_cases more : rest = []
        · subst more
          exact Or.inr ⟨e, _, .atLink (.here e) hop (by simp [Route.names, named])⟩
        · rcases ih target more with ⟨f, route, leaf, along⟩ | ⟨f, culprit, strays⟩
          · exact Or.inl ⟨f, .cross hop route, leaf, by
              rw [List.map_cons, along, Route.names, List.cons_append, List.map_cons, named]⟩
          · exact Or.inr ⟨f, culprit, strays.cross hop named.symm⟩

/-! ## Resolution of paths -/

/-- A path names the links of a route in turn, and then the leaf. -/
def Follows (path : String) (route : Route c e f) (leaf : Leaf c f) : Prop :=
  (pathSegments path).map nameKey = (route.names ++ [leaf.property.name]).map nameKey

theorem pathSegments_eq (path : String) :
    pathSegments path =
      (path.toList.splitOn '.').map fun piece => String.ofList (Text.trimChars piece) := by
  rw [pathSegments, Text.split_eq_splitOn]

theorem pathSegments_ne_nil (path : String) : pathSegments path ≠ [] := by
  rw [pathSegments_eq, Ne, List.map_eq_nil_iff]
  exact List.splitOn_ne_nil _ _

variable {path} in
theorem Follows.resolve {route : Route c e f} {leaf : Leaf c f}
    (follows : Follows path route leaf) :
    c.resolve e path .nullSafe = .ok (route.resolved leaf) :=
  resolveSegments_route path route leaf follows

/-- A path that leads to no property strays at one of its segments, which the failure names. -/
theorem resolve_nullSafe_failure {e : c.Entity} {path : String} {error : FilterError} :
    c.resolve e path .nullSafe = .error error ↔
      ∃ f segment, Strays c e (pathSegments path) f segment ∧
        error = .propertyNotFound (c.name f) path segment := by
  constructor
  · intro failure
    rcases route_or_strays e (pathSegments_ne_nil path) with ⟨f, route, leaf, along⟩ | strays
    · cases failure.symm.trans (Follows.resolve along)
    · obtain ⟨f, segment, strays⟩ := strays
      have strayed := resolveSegments_of_strays path strays
      exact ⟨f, segment, strays, Except.error.inj (failure.symm.trans strayed)⟩
  · rintro ⟨f, segment, strays, rfl⟩
    exact resolveSegments_of_strays path strays

/-- Null-safe resolution does exactly what routes say. The segments of a path are the pieces between
its points, without the blanks around them. It leads to a property exactly when all segments but the
last name links in turn and the last one names a leaf, in any case; the property is then the one
that is read off the route. In every other case the failure names the whole path, the segment at
which the path strays and the entity whose schema it leaves there. -/
theorem resolve_iff_follows (e : c.Entity) (path : String) :
    pathSegments path =
      (path.toList.splitOn '.').map (fun piece => String.ofList (Text.trimChars piece)) ∧
    (∀ p, c.resolve e path .nullSafe = .ok p ↔
      ∃ f, ∃ route : Route c e f, ∃ leaf : Leaf c f,
        Follows path route leaf ∧ p = route.resolved leaf) ∧
    ∀ error, c.resolve e path .nullSafe = .error error ↔
      ∃ f segment, Strays c e (pathSegments path) f segment ∧
        error = .propertyNotFound (c.name f) path segment := by
  refine ⟨pathSegments_eq path, fun p => ⟨fun success => ?_, ?_⟩,
    fun error => resolve_nullSafe_failure⟩
  · rcases route_or_strays e (pathSegments_ne_nil path) with ⟨f, route, leaf, along⟩ | strays
    · have led : c.resolve e path .nullSafe = .ok (route.resolved leaf) := Follows.resolve along
      exact ⟨f, route, leaf, along, Except.ok.inj (success.symm.trans led)⟩
    · obtain ⟨f, segment, strays⟩ := strays
      cases success.symm.trans (resolveSegments_of_strays path strays)
  · rintro ⟨f, route, leaf, follows, rfl⟩
    exact follows.resolve

end Catalog
end RowQuery
