import RowQuery.Proofs.Schema.Column

/-!
# Direct access

Direct access refuses to cross a link that may be absent, at the first such link and whatever stands
behind it. On every other path it does what null-safe access does. What it resolves is read over
links that are always there, so that a null comes from the property at the end and from nowhere
else.
-/
namespace RowQuery

/-- The error is that the given path leads to no property, or crosses a link that it may not. -/
def FilterError.OfPath (path : String) : FilterError → Prop
  | propertyNotFound _ refused _ => refused = path
  | unguardedOptionalPath refused _ => refused = path
  | _ => False

namespace Catalog
variable {c : Catalog} {e f g : c.Entity}

/-- The segments cross a link: they name the links of a route in turn, then the link itself, and at
least one more segment follows. -/
inductive Crosses : {e f g : c.Entity} → List String → Route c e f → Hop c f g → Prop where
  | here {e g : c.Entity} {segment : String} {rest : List String} (hop : Hop c e g)
      (named : nameKey segment = nameKey hop.property.name) (more : rest ≠ []) :
      Crosses (segment :: rest) (.here e) hop
  | beyond {e target f g : c.Entity} {segment : String} {rest : List String} {hop : Hop c f g}
      {front : Route c target f} (first : Hop c e target)
      (named : nameKey segment = nameKey first.property.name) (crosses : Crosses rest front hop) :
      Crosses (segment :: rest) (.cross first front) hop

/-- The segments cross an optional link. -/
def CrossesOptional (c : Catalog) (e : c.Entity) (segments : List String) : Prop :=
  ∃ f g, ∃ front : Route c e f, ∃ hop : Hop c f g,
    Crosses segments front hop ∧ hop.optional = true

/-- The name of the first optional link that the segments cross. -/
def FirstOptional (c : Catalog) (e : c.Entity) (segments : List String) (link : String) : Prop :=
  ∃ f g, ∃ front : Route c e f, ∃ hop : Hop c f g,
    Crosses segments front hop ∧ front.optional = false ∧ hop.optional = true ∧
      hop.property.name = link

variable {segment link : String} {segments rest : List String}

theorem Crosses.ne_nil {front : Route c e f} {hop : Hop c f g}
    (crosses : Crosses segments front hop) : segments ≠ [] := by
  cases crosses <;> exact List.cons_ne_nil _ _

theorem CrossesOptional.beyond (first : Hop c e g)
    (named : nameKey segment = nameKey first.property.name)
    (crossed : CrossesOptional c g rest) : CrossesOptional c e (segment :: rest) := by
  obtain ⟨_, _, _, _, crosses, optional⟩ := crossed
  exact ⟨_, _, _, _, crosses.beyond first named, optional⟩

/-- Where an optional link is crossed, one of them comes first. -/
theorem CrossesOptional.exists_first (crossed : CrossesOptional c e segments) :
    ∃ link, FirstOptional c e segments link := by
  obtain ⟨f, g, front, hop, crosses, optional⟩ := crossed
  induction crosses with
  | here hop named more => exact ⟨_, _, _, .here _, hop, .here hop named more, rfl, optional, rfl⟩
  | beyond first named crosses ih =>
    cases early : first.optional with
    | true =>
      exact ⟨_, _, _, .here _, first, .here first named crosses.ne_nil, rfl, early, rfl⟩
    | false =>
      obtain ⟨link, _, _, front, hop, crosses, guarded, optional, called⟩ := ih optional
      refine ⟨link, _, _, .cross first front, hop, crosses.beyond first named, ?_, optional, called⟩
      rw [Route.optional, early, guarded, Bool.or_self]

/-- A route with an optional link crosses it on the way to its leaf. -/
theorem crossesOptional_of_route (route : Route c e f) (leaf : Leaf c f)
    (along : segments.map nameKey = (route.names ++ [leaf.property.name]).map nameKey)
    (optional : route.optional = true) : CrossesOptional c e segments := by
  induction route generalizing segments with
  | here e => cases optional
  | cross hop others ih =>
    cases segments with
    | nil => cases along
    | cons segment rest =>
      obtain ⟨named, along⟩ := List.cons.inj along
      rcases Bool.or_eq_true_iff.1 optional with own | later
      · have more : rest ≠ [] := by
          rintro rfl
          simp at along
        exact ⟨_, _, .here _, hop, .here hop named more, own⟩
      · exact (ih leaf along later).beyond hop named

/-! ## The two modes -/

variable (path : String)

theorem resolveSegments_direct_hop (hop : Hop c e g)
    (named : nameKey segment = nameKey hop.property.name) (more : rest ≠ []) :
    c.resolveSegments path .direct e (segment :: rest) =
      if hop.optional then .error (.unguardedOptionalPath path hop.property.name)
      else (c.resolveSegments path .direct g rest).map fun inner =>
        inner.across hop.property.name hop.property.column hop.optional hop.follow := by
  have found := Schema.find?_eq_some_iff.2 ⟨hop.registered, named.symm⟩
  obtain ⟨next, others, rfl⟩ := List.exists_cons_of_ne_nil more
  obtain ⟨⟨name, column, kind⟩, optional, follow, registered, leads⟩ := hop
  cases leads with
  | link target get =>
    rw [resolveSegments]
    simp only [found]
    cases c.resolveSegments path .direct g (next :: others) <;> rfl
  | optionalLink target get => simp [resolveSegments, found]

/-- The first optional link that is crossed decides, whatever stands behind it. -/
theorem resolveSegments_of_firstOptional (first : FirstOptional c e segments link) :
    c.resolveSegments path .direct e segments = .error (.unguardedOptionalPath path link) := by
  obtain ⟨f, g, front, hop, crosses, guarded, optional, rfl⟩ := first
  induction crosses with
  | here hop named more => rw [resolveSegments_direct_hop path hop named more, if_pos optional]
  | beyond first named crosses ih =>
    obtain ⟨early, guarded⟩ := Bool.or_eq_false_iff.1 guarded
    rw [resolveSegments_direct_hop path first named crosses.ne_nil, early, ih guarded optional]
    rfl

/-- Without an optional link to cross the modes agree, in their failures too. -/
theorem resolveSegments_direct_eq (clear : ¬ CrossesOptional c e segments) :
    c.resolveSegments path .direct e segments = c.resolveSegments path .nullSafe e segments := by
  induction segments generalizing e with
  | nil => rfl
  | cons segment rest ih =>
    cases found : (c.schema e).find? segment with
    | none => simp only [resolveSegments, found]
    | some q =>
      obtain ⟨registered, named⟩ := Schema.find?_eq_some_iff.1 found
      rcases leaf_or_hop registered with ⟨leaf, rfl⟩ | ⟨target, hop, rfl⟩
      · cases rest with
        | nil =>
          rw [resolveSegments_leaf path leaf named.symm, resolveSegments_leaf path leaf named.symm]
        | cons next others =>
          rw [resolveSegments_beyond_leaf path leaf named.symm,
            resolveSegments_beyond_leaf path leaf named.symm]
      · by_cases more : rest = []
        · subst more
          rw [resolveSegments_hop path hop named.symm, resolveSegments_hop path hop named.symm]
        · have guarded : ¬ hop.optional = true := by
            intro optional
            exact clear ⟨_, _, .here _, hop, .here hop named.symm more, optional⟩
          have onward : ¬ CrossesOptional c target rest := by
            intro crossed
            exact clear (crossed.beyond hop named.symm)
          rw [resolveSegments_direct_hop path hop named.symm more, if_neg guarded, ih onward,
            resolveSegments_hop_next path hop named.symm more]

/-- Whatever the access, a path that is refused is itself at fault. -/
theorem resolve_failure {mode : AccessMode} {error : FilterError}
    (failure : c.resolve e path mode = .error error) : error.OfPath path := by
  have unguarded : ∀ {error}, c.resolve e path .nullSafe = .error error →
      error.OfPath path := by
    intro error failure
    obtain ⟨f, segment, -, rfl⟩ := resolve_nullSafe_failure.1 failure
    rfl
  cases mode with
  | nullSafe => exact unguarded failure
  | direct =>
    by_cases crossed : CrossesOptional c e (pathSegments path)
    · obtain ⟨link, first⟩ := crossed.exists_first
      cases failure.symm.trans (resolveSegments_of_firstOptional path first)
      rfl
    · exact unguarded ((resolveSegments_direct_eq path crossed).symm.trans failure)

/-! ## Rows behind links that are always there -/

theorem Hop.follow_of_required (hop : Hop c e g) (required : hop.optional = false)
    (row : c.Row e) : ∃ next, hop.follow row = some next := by
  obtain ⟨⟨name, column, kind⟩, optional, follow, registered, leads⟩ := hop
  cases leads with
  | link target get => exact ⟨get row, rfl⟩
  | optionalLink target get => cases required

theorem Route.follow_of_required (route : Route c e f) (required : route.optional = false)
    (row : c.Row e) : ∃ last, route.follow row = some last := by
  induction route with
  | here e => exact ⟨row, rfl⟩
  | cross hop rest ih =>
    obtain ⟨early, later⟩ := Bool.or_eq_false_iff.1 required
    obtain ⟨next, followed⟩ := hop.follow_of_required early row
    obtain ⟨last, arrived⟩ := ih later next
    exact ⟨last, by rw [Route.follow, followed, Option.bind_some, arrived]⟩

/-- Direct access is null-safe access that refuses to cross an optional link. It succeeds exactly
where null-safe access does and no optional link is crossed, with the same property; every row then
has a row at the end of the route, and reads as null only if the leaf is null there. It fails at the
first optional link that is crossed, even where a later segment names nothing, and otherwise as
null-safe access fails. -/
theorem resolve_direct (e : c.Entity) (path : String) :
    (∀ p, c.resolve e path .direct = .ok p ↔
      c.resolve e path .nullSafe = .ok p ∧ ¬ CrossesOptional c e (pathSegments path)) ∧
    (∀ p, c.resolve e path .direct = .ok p →
      ∃ f, ∃ route : Route c e f, ∃ leaf : Leaf c f,
        Follows path route leaf ∧ p = route.resolved leaf ∧
        ∀ row, ∃ last, route.follow row = some last ∧ (p.get row = none ↔ leaf.read last = none)) ∧
    ∀ error, c.resolve e path .direct = .error error ↔
      (∃ link, FirstOptional c e (pathSegments path) link ∧
        error = .unguardedOptionalPath path link) ∨
      ¬ CrossesOptional c e (pathSegments path) ∧ c.resolve e path .nullSafe = .error error ∧
        ∃ entity segment, error = .propertyNotFound entity path segment := by
  have refused : ∀ {link}, FirstOptional c e (pathSegments path) link →
      c.resolve e path .direct = .error (.unguardedOptionalPath path link) :=
    resolveSegments_of_firstOptional path
  have agrees : ¬ CrossesOptional c e (pathSegments path) →
      c.resolve e path .direct = c.resolve e path .nullSafe := resolveSegments_direct_eq path
  have clear : ∀ {p}, c.resolve e path .direct = .ok p →
      ¬ CrossesOptional c e (pathSegments path) := by
    intro p resolved crossed
    obtain ⟨link, first⟩ := crossed.exists_first
    cases resolved.symm.trans (refused first)
  refine ⟨fun p => ⟨fun resolved => ?_, fun ⟨resolved, uncrossed⟩ => ?_⟩, fun p resolved => ?_,
    fun error => ⟨fun failed => ?_, ?_⟩⟩
  · exact ⟨(agrees (clear resolved)).symm.trans resolved, clear resolved⟩
  · exact (agrees uncrossed).trans resolved
  · obtain ⟨f, route, leaf, follows, rfl⟩ := exists_follows resolved
    have required : route.optional = false := by
      rw [Bool.eq_false_iff]
      exact fun optional => clear resolved (crossesOptional_of_route route leaf follows optional)
    refine ⟨f, route, leaf, follows, rfl, fun row => ?_⟩
    obtain ⟨last, arrived⟩ := route.follow_of_required required row
    refine ⟨last, arrived, ?_⟩
    simp [ResolvedProperty.get, Route.resolved, arrived]
  · by_cases crossed : CrossesOptional c e (pathSegments path)
    · obtain ⟨link, first⟩ := crossed.exists_first
      exact Or.inl ⟨link, first, Except.error.inj (failed.symm.trans (refused first))⟩
    · have also : c.resolve e path .nullSafe = .error error := (agrees crossed).symm.trans failed
      obtain ⟨f, segment, -, named⟩ := resolve_nullSafe_failure.1 also
      exact Or.inr ⟨crossed, also, _, _, named⟩
  · rintro (⟨link, first, rfl⟩ | ⟨uncrossed, failed, _⟩)
    · exact refused first
    · exact (agrees uncrossed).trans failed

end Catalog

/-- The link is refused although nothing behind it has the name that follows. -/
example : staff.resolve () "superior.nonsense" .direct =
    .error (.unguardedOptionalPath "superior.nonsense" "Superior") := rfl

end RowQuery
